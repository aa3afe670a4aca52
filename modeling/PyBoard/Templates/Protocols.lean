/-
  PyBoard.Templates.Protocols — the macros of `subscribe/_protocols.j2`.

  A macro fills a dict by `update` and writes it out; here it returns the dict.  The
  attributes of what is not defined raise, `default` replaces what is not defined, and
  `default(value, true)` also what is falsy.  The fields of a server are those of
  `nodeToSubscribeDict`, which sets every field that a macro reads.
-/
import PyBoard.Python.JsonText
import PyBoard.Python.Url
import PyBoard.Services.Subscribe

namespace PyBoard.Template

/-! ## §1. Expressions. -/

/-- What an expression evaluates to. -/
inductive Value
  | undefined
  | val (v : Json)
  deriving DecidableEq

/-- `value.name`. -/
def Value.attr : Value → String → Except PyExc Value
  | .undefined, _ => .error (.other "UndefinedError")
  | .val (.obj fields), name =>
      match Json.lookup fields name with
      | some v => .ok (.val v)
      | none => .ok .undefined
  | .val _, _ => .ok .undefined

/-- `value[0]`. -/
def Value.first : Value → Except PyExc Value
  | .undefined => .error (.other "UndefinedError")
  | .val (.arr (v :: _)) => .ok (.val v)
  | .val (.str s) =>
      match s.toList with
      | c :: _ => .ok (.val (.str (String.singleton c)))
      | [] => .ok .undefined
  | .val _ => .ok .undefined

/-- `value.a.b.c`. -/
def Value.path (v : Json) (names : List String) : Except PyExc Value :=
  names.foldlM Value.attr (.val v)

/-- `value | default(d)`. -/
def Value.default (d : Json) : Value → Json
  | .undefined => d
  | .val v => v

/-- `value | default(d, true)`. -/
def Value.orDefault (d : Json) : Value → Json
  | .undefined => d
  | .val v => v.or d

/-- `value == text`, of what may be undefined. -/
def Value.isText (text : String) : Value → Bool
  | .undefined => false
  | .val v => v.isText text

/-- `str.isspace` of one character. -/
def isSpace (c : Char) : Bool :=
  (9 ≤ c.toNat && c.toNat ≤ 13) || (28 ≤ c.toNat && c.toNat ≤ 32) || c.toNat = 0x85 ||
    c.toNat = 0xA0 || c.toNat = 0x1680 || (0x2000 ≤ c.toNat && c.toNat ≤ 0x200A) ||
    c.toNat = 0x2028 || c.toNat = 0x2029 || c.toNat = 0x202F || c.toNat = 0x205F ||
    c.toNat = 0x3000

/-- `value | trim`. -/
def trim (text : String) : String :=
  String.ofList (((text.toList.dropWhile isSpace).reverse.dropWhile isSpace).reverse)

/-- `server.network_settings.a.b | default(d, true)`. -/
def networkSetting (server : JsonDict) (names : List String) (d : String) : Except PyExc Json :=
  (Value.path (dictGet server "network_settings") names).map (Value.orDefault (.str d))

/-- `server.tls_settings.name | default(d, true)`. -/
def tlsSetting (server : JsonDict) (name d : String) : Except PyExc Json :=
  (Value.path (dictGet server "tls_settings") [name]).map (Value.orDefault (.str d))

/-- `server.network in names`. -/
def onNetwork (server : JsonDict) (names : List String) : Bool :=
  names.any fun name => (dictGet server "network").isText name

/-- `server.protocol in names`. -/
def isProtocol (server : JsonDict) (names : List String) : Bool :=
  names.any fun name => (dictGet server "protocol").isText name

/-! ## §2. Links. -/

/-- `server.network == "tcp" and server.network_settings.header.type | default("") == "http"`. -/
def tcpHttp (server : JsonDict) : Except PyExc Bool :=
  if onNetwork server ["tcp"] then do
    let type_ ← Value.path (dictGet server "network_settings") ["header", "type"]
    return (type_.default (.str "")).isText "http"
  else .ok false

/-- `(server.network_settings.header.request.a.b)[0] | default("", true)`. -/
def httpRequest (server : JsonDict) (names : List String) : Except PyExc Json := do
  let values ← Value.path (dictGet server "network_settings") ("header" :: "request" :: names)
  return (← values.first).orDefault (.str "")

/-- `configure_vmess_network`. -/
def configureVmessNetwork (cfg server : JsonDict) : Except PyExc JsonDict := do
  if ← tcpHttp server then
    let host ← httpRequest server ["headers", "Host"]
    let path ← httpRequest server ["path"]
    return dictUpdate cfg [("type", .str "http"), ("host", host), ("path", path)]
  else if onNetwork server ["ws"] then
    let path ← networkSetting server ["path"] ""
    let host ← networkSetting server ["headers", "Host"] ""
    return dictUpdate cfg [("path", path), ("host", host)]
  else if onNetwork server ["grpc"] then
    return dictUpdate cfg [("path", ← networkSetting server ["serviceName"] "")]
  else if onNetwork server ["kcp"] then
    let type_ ← networkSetting server ["header", "type"] "none"
    return dictUpdate cfg [("type", type_), ("path", ← networkSetting server ["seed"] "")]
  else if onNetwork server ["httpupgrade", "xhttp"] then
    let path ← networkSetting server ["path"] ""
    let host ← networkSetting server ["host"] ""
    let cfg := dictUpdate cfg [("path", path), ("host", host)]
    if onNetwork server ["xhttp"] then
      return dictUpdate cfg [("mode", ← networkSetting server ["mode"] "auto")]
    else return cfg
  else return cfg

/-- `uri_transport_params`. -/
def uriTransportParams (params server : JsonDict) : Except PyExc JsonDict := do
  if onNetwork server ["ws"] then
    let path ← networkSetting server ["path"] ""
    let host ← networkSetting server ["headers", "Host"] ""
    return dictUpdate params [("path", path), ("host", host)]
  else if onNetwork server ["grpc"] then
    return dictUpdate params [("serviceName", ← networkSetting server ["serviceName"] "")]
  else if onNetwork server ["kcp"] then
    let type_ ← networkSetting server ["header", "type"] "none"
    return dictUpdate params
      [("headerType", type_), ("seed", ← networkSetting server ["seed"] "")]
  else if onNetwork server ["httpupgrade", "xhttp"] then
    let path ← networkSetting server ["path"] ""
    let host ← networkSetting server ["host"] ""
    let params := dictUpdate params [("path", path), ("host", host)]
    if onNetwork server ["xhttp"] then
      return dictUpdate params [("mode", ← networkSetting server ["mode"] "auto")]
    else return params
  else return params

section

variable (rt : Runtime) (fm : Formats) (to_json : Json → Except PyExc String)

/-- `value | query`. -/
def query (items : JsonDict) : Except PyExc String :=
  let kept := items.filter fun f => f.2 ≠ .null ∧ f.2 ≠ .str ""
  let texts := kept.map fun f => (PyStr.ofString f.1, PyStr.ofString (rt.str f.2))
  (Url.urlencode texts).map fun codes => String.ofList (codes.map Char.ofNat)

/-- `value | int` of a flag. -/
def intOfFlag (value : Json) : Json := .int (if value.truthy then 1 else 0)

/-- `"reality"`, `"tls"` or nothing. -/
def security (server : JsonDict) : String :=
  if dictGet server "tls" = .int 2 then "reality"
  else if (dictGet server "tls").truthy then "tls"
  else ""

/-- The keys of a Reality node, after other items. -/
def updateReality (params server items : JsonDict) : Except PyExc JsonDict := do
  if dictGet server "tls" = .int 2 then
    let public_key ← tlsSetting server "public_key" ""
    let short_id ← tlsSetting server "short_id" ""
    return dictUpdate params (items ++ [("pbk", public_key), ("sid", short_id)])
  else return params

/-- The dict of a vmess link. -/
def vmessCfg (uuid : String) (server : JsonDict) : Except PyExc JsonDict := do
  let tls := (dictGet server "tls").truthy
  let cfg : JsonDict :=
    [("v", .str "2"), ("ps", dictGet server "name"), ("add", dictGet server "host"),
      ("port", .str (rt.str (dictGet server "port"))), ("id", .str uuid), ("aid", .str "0"),
      ("scy", .str "auto"), ("net", dictGet server "network"), ("type", .str "none"),
      ("host", .str ""), ("path", .str ""), ("tls", .str (if tls then "tls" else "")),
      ("fp", ← tlsSetting server "fingerprint" "chrome")]
  let cfg :=
    if tls then
      dictUpdate cfg
        [("allowInsecure", dictGet server "allow_insecure_int"), ("sni", dictGet server "sni")]
    else cfg
  configureVmessNetwork cfg server

/-- The parameters of a vless link. -/
def vlessParams (server : JsonDict) : Except PyExc JsonDict := do
  let params : JsonDict :=
    [("type", dictGet server "network"), ("encryption", .str "none"), ("host", .str ""),
      ("path", .str ""), ("headerType", .str "none"), ("quicSecurity", .str "none"),
      ("serviceName", .str ""), ("security", .str (security server)),
      ("flow", (dictGet server "flow").or (.str "")),
      ("fp", ← tlsSetting server "fingerprint" "chrome"),
      ("insecure", dictGet server "allow_insecure_int")]
  let params :=
    if (dictGet server "tls").truthy then dictUpdate params [("sni", dictGet server "sni")]
    else params
  let params ← updateReality params server []
  let params :=
    if (dictGet server "vless_encryption").truthy then
      dictUpdate params [("encryption", dictGet server "vless_encryption")]
    else params
  uriTransportParams params server

/-- The parameters of a trojan link. -/
def trojanParams (server : JsonDict) : Except PyExc JsonDict :=
  uriTransportParams
    [("allowInsecure", dictGet server "allow_insecure_int"), ("peer", dictGet server "sni"),
      ("sni", dictGet server "sni"), ("type", dictGet server "network")] server

/-- The parameters of a hysteria link. -/
def hysteriaParams (uuid : String) (server : JsonDict) : JsonDict :=
  let params : JsonDict :=
    if isProtocol server ["hysteria2"] then
      [("insecure", dictGet server "allow_insecure_int"), ("sni", dictGet server "sni")]
    else
      [("protocol", .str "udp"), ("auth", .str uuid),
        ("insecure", dictGet server "allow_insecure_int"), ("peer", dictGet server "sni"),
        ("upmbps", dictGet server "down_mbps"), ("downmbps", dictGet server "up_mbps")]
  let params :=
    if (dictGet server "obfs").truthy ∧ (dictGet server "obfs_password").truthy then
      dictUpdate params
        [("obfs", dictGet server "obfs"), ("obfs-password", dictGet server "obfs_password")]
    else params
  if (dictGet server "multi_port").truthy then
    dictUpdate params [("mport", dictGet server "port")]
  else params

/-- The parameters of a tuic link. -/
def tuicParams (server : JsonDict) : JsonDict :=
  [("sni", dictGet server "sni"), ("alpn", .str "h3"),
    ("congestion_control", (dictGet server "congestion_control").or (.str "")),
    ("allow_insecure", dictGet server "allow_insecure_int"),
    ("disable_sni", intOfFlag (dictGet server "disable_sni")),
    ("udp_relay_mode", (dictGet server "udp_relay_mode").or (.str ""))]

/-- The parameters of an anytls link. -/
def anytlsParams (server : JsonDict) : Except PyExc JsonDict := do
  let params : JsonDict :=
    [("type", dictGet server "network"), ("insecure", dictGet server "allow_insecure_int"),
      ("fp", ← tlsSetting server "fingerprint" "chrome"), ("sni", dictGet server "sni")]
  uriTransportParams (← updateReality params server [("security", .str "reality")]) server

/-- `scheme://userinfo@host:port` of a link. -/
def linkHead (scheme userinfo : String) (server : JsonDict) (port : String) : String :=
  scheme ++ "://" ++ userinfo ++ rt.str (dictGet server "formatted_host") ++ ":" ++
    rt.str (dictGet server port)

/-- `#name` of a link. -/
def linkName (server : JsonDict) : String := "#" ++ fm.quote (rt.str (dictGet server "name"))

/-- `?plugin=…` of a shadowsocks link. -/
def pluginQuery (server : JsonDict) : Except PyExc String := do
  if (dictGet server "ss_plugin").truthy then
    return "?" ++ (← query rt [("plugin", dictGet server "ss_plugin")])
  else return ""

/-- `uri`. -/
def uri (uuid : String) (server : JsonDict) : Except PyExc String := do
  if isProtocol server ["shadowsocks"] then
    return linkHead rt "ss" (rt.str (dictGet server "ss_auth") ++ "@") server "port" ++
      (← pluginQuery rt server) ++ linkName rt fm server
  else if isProtocol server ["vmess"] then
    let cfg ← vmessCfg rt uuid server
    return "vmess://" ++ b64encode (← to_json (.obj cfg))
  else if isProtocol server ["vless"] then
    let params ← vlessParams server
    return linkHead rt "vless" (uuid ++ "@") server "port" ++ "?" ++ (← query rt params) ++
      linkName rt fm server
  else if isProtocol server ["trojan"] then
    let params ← trojanParams server
    return linkHead rt "trojan" (uuid ++ "@") server "port" ++ "?" ++ (← query rt params) ++
      linkName rt fm server
  else if isProtocol server ["hysteria", "hysteria2"] then
    let v2 := isProtocol server ["hysteria2"]
    let params := hysteriaParams uuid server
    return linkHead rt (if v2 then "hysteria2" else "hysteria") (if v2 then uuid ++ "@" else "")
      server "first_port" ++ "/?" ++ (← query rt params) ++ linkName rt fm server
  else if isProtocol server ["tuic"] then
    return linkHead rt "tuic" (uuid ++ ":" ++ uuid ++ "@") server "port" ++ "?" ++
      (← query rt (tuicParams server)) ++ linkName rt fm server
  else if isProtocol server ["anytls"] then
    let params ← anytlsParams server
    return linkHead rt "anytls" (uuid ++ "@") server "port" ++ "/?" ++ (← query rt params) ++
      linkName rt fm server
  else return ""

end

/-! ## §3. Clash. -/

/-- `clash_transport`. -/
def clashTransport (proxy server : JsonDict) : Except PyExc JsonDict := do
  if onNetwork server ["ws"] then
    let path ← networkSetting server ["path"] "/"
    let host ← networkSetting server ["headers", "Host"] ""
    return dictUpdate proxy [("network", .str "ws"),
      ("ws-opts", .obj [("path", path), ("headers", .obj [("Host", host)])])]
  else if onNetwork server ["grpc"] then
    let service ← networkSetting server ["serviceName"] ""
    return dictUpdate proxy [("network", .str "grpc"),
      ("grpc-opts", .obj [("grpc-service-name", service)])]
  else if onNetwork server ["httpupgrade", "xhttp"] then
    return dictUpdate proxy [("network", dictGet server "network")]
  else return proxy

/-- `clash_tls`. -/
def clashTls (proxy server : JsonDict) : Except PyExc JsonDict := do
  if (dictGet server "tls").truthy then
    let proxy := dictUpdate proxy [("tls", .bool true),
      ("skip-cert-verify", dictGet server "allow_insecure"),
      ("servername", dictGet server "sni"),
      ("client-fingerprint", ← tlsSetting server "fingerprint" "chrome")]
    if dictGet server "tls" = .int 2 then
      let public_key ← tlsSetting server "public_key" ""
      let short_id ← tlsSetting server "short_id" ""
      return dictUpdate proxy
        [("reality-opts", .obj [("public-key", public_key), ("short-id", short_id)])]
    else return proxy
  else return proxy

/-- `clash_proxy`: the dict that it writes, if any. -/
def clashProxy (uuid : String) (server : JsonDict) : Except PyExc (Option JsonDict) := do
  let proxy : JsonDict :=
    [("name", dictGet server "name"), ("server", dictGet server "host"),
      ("port", dictGet server "first_port_int"), ("udp", .bool true)]
  if isProtocol server ["shadowsocks"] then
    let proxy := dictUpdate proxy [("type", .str "ss"), ("cipher", dictGet server "cipher"),
      ("password", dictGet server "ss_password")]
    if (dictGet server "ss_plugin").truthy then
      return some (dictUpdate proxy
        [("plugin", .str "obfs"), ("plugin-opts", .obj [("mode", .str "http")])])
    else return some proxy
  else if isProtocol server ["vmess"] then
    let proxy := dictUpdate proxy [("type", .str "vmess"), ("uuid", .str uuid),
      ("alterId", .int 0), ("cipher", .str "auto")]
    return some (← clashTls (← clashTransport proxy server) server)
  else if isProtocol server ["vless"] then
    let proxy := dictUpdate proxy [("type", .str "vless"), ("uuid", .str uuid)]
    let proxy :=
      if (dictGet server "flow").truthy then dictUpdate proxy [("flow", dictGet server "flow")]
      else proxy
    let proxy :=
      if (dictGet server "vless_encryption").truthy then
        dictUpdate proxy [("encryption", dictGet server "vless_encryption")]
      else proxy
    return some (← clashTls (← clashTransport proxy server) server)
  else if isProtocol server ["trojan"] then
    let proxy := dictUpdate proxy [("type", .str "trojan"), ("password", .str uuid),
      ("sni", dictGet server "sni"), ("skip-cert-verify", dictGet server "allow_insecure")]
    return some (← clashTransport proxy server)
  else if isProtocol server ["hysteria", "hysteria2"] then
    let type_ := if isProtocol server ["hysteria2"] then "hysteria2" else "hysteria"
    let proxy := dictUpdate proxy [("type", .str type_), ("password", .str uuid),
      ("auth", .str uuid), ("sni", dictGet server "sni"),
      ("skip-cert-verify", dictGet server "allow_insecure")]
    let proxy :=
      if (dictGet server "multi_port").truthy then
        dictUpdate proxy [("ports", dictGet server "port"), ("mport", dictGet server "port")]
      else proxy
    if (dictGet server "obfs").truthy then
      return some (dictUpdate proxy
        [("obfs", dictGet server "obfs"), ("obfs-password", dictGet server "obfs_password")])
    else return some proxy
  else if isProtocol server ["tuic"] then
    return some (dictUpdate proxy [("type", .str "tuic"), ("uuid", .str uuid),
      ("password", .str uuid), ("alpn", .arr [.str "h3"]),
      ("disable-sni", dictGet server "disable_sni"),
      ("reduce-rtt", dictGet server "zero_rtt_handshake"),
      ("udp-relay-mode", (dictGet server "udp_relay_mode").or (.str "native")),
      ("congestion-controller", (dictGet server "congestion_control").or (.str "cubic")),
      ("sni", dictGet server "sni"), ("skip-cert-verify", dictGet server "allow_insecure")])
  else if isProtocol server ["anytls"] then
    return some (dictUpdate proxy [("type", .str "anytls"), ("password", .str uuid),
      ("client-fingerprint", ← tlsSetting server "fingerprint" "chrome"),
      ("sni", dictGet server "sni"), ("skip-cert-verify", dictGet server "allow_insecure")])
  else return none

/-! ## §4. sing-box. -/

/-- The keys of a Reality node. -/
def singboxReality (tls server : JsonDict) : Except PyExc JsonDict := do
  if dictGet server "tls" = .int 2 then
    let public_key ← tlsSetting server "public_key" ""
    let short_id ← tlsSetting server "short_id" ""
    return dictUpdate tls [("reality", .obj [("enabled", .bool true),
      ("public_key", public_key), ("short_id", short_id)])]
  else return tls

/-- `singbox_tls`. -/
def singboxTls (outbound server : JsonDict) (force : Bool) : Except PyExc JsonDict := do
  if force ∨ (dictGet server "tls").truthy then
    let tls : JsonDict := [("enabled", .bool true), ("insecure", dictGet server "allow_insecure"),
      ("server_name", dictGet server "sni")]
    let tls ← singboxReality tls server
    let tls :=
      match ← Value.path (dictGet server "tls_settings") ["fingerprint"] with
      | .val fingerprint => dictUpdate tls
          [("utls", .obj [("enabled", .bool true), ("fingerprint", fingerprint)])]
      | .undefined => tls
    return dictUpdate outbound [("tls", .obj tls)]
  else return outbound

/-- `singbox_transport`. -/
def singboxTransport (outbound server : JsonDict) : Except PyExc JsonDict := do
  if onNetwork server ["ws"] then
    let path ← networkSetting server ["path"] "/"
    let host ← networkSetting server ["headers", "Host"] ""
    return dictUpdate outbound [("transport", .obj [("type", .str "ws"), ("path", path),
      ("headers", .obj [("Host", .arr [host])]), ("max_early_data", .int 2048),
      ("early_data_header_name", .str "Sec-WebSocket-Protocol")])]
  else if onNetwork server ["grpc"] then
    let service ← networkSetting server ["serviceName"] ""
    return dictUpdate outbound
      [("transport", .obj [("type", .str "grpc"), ("service_name", service)])]
  else if onNetwork server ["httpupgrade", "xhttp"] then
    let path ← networkSetting server ["path"] "/"
    let host ← networkSetting server ["host"] ""
    let mode ← networkSetting server ["mode"] "auto"
    return dictUpdate outbound [("transport", .obj [("type", dictGet server "network"),
      ("path", path), ("host", host), ("mode", mode)])]
  else return outbound

/-- `singbox_outbound`. -/
def singboxOutbound (uuid : String) (server : JsonDict) (old : Bool) :
    Except PyExc JsonDict := do
  let outbound : JsonDict :=
    [("tag", dictGet server "name"), ("server", dictGet server "host"),
      ("server_port", dictGet server "first_port_int")]
  let outbound :=
    if old then outbound else dictUpdate outbound [("domain_resolver", .str "local")]
  if isProtocol server ["shadowsocks"] then
    return dictUpdate outbound [("type", .str "shadowsocks"), ("method", dictGet server "cipher"),
      ("password", dictGet server "ss_password")]
  else if isProtocol server ["vmess"] then
    let outbound := dictUpdate outbound [("type", .str "vmess"), ("uuid", .str uuid),
      ("security", .str "auto"), ("alter_id", .int 0)]
    singboxTransport (← singboxTls outbound server false) server
  else if isProtocol server ["vless"] then
    let outbound := dictUpdate outbound [("type", .str "vless"), ("uuid", .str uuid),
      ("packet_encoding", .str "xudp")]
    let outbound :=
      if (dictGet server "flow").truthy then
        dictUpdate outbound [("flow", dictGet server "flow")]
      else outbound
    singboxTransport (← singboxTls outbound server false) server
  else if isProtocol server ["trojan"] then
    let outbound := dictUpdate outbound [("type", .str "trojan"), ("password", .str uuid)]
    singboxTransport (← singboxTls outbound server true) server
  else if isProtocol server ["hysteria", "hysteria2"] then
    let type_ := if isProtocol server ["hysteria2"] then "hysteria2" else "hysteria"
    let outbound := dictUpdate outbound [("type", .str type_), ("password", .str uuid),
      ("up_mbps", dictGet server "up_mbps"), ("down_mbps", dictGet server "down_mbps")]
    let outbound :=
      if isProtocol server ["hysteria"] then dictUpdate outbound [("auth_str", .str uuid)]
      else outbound
    let outbound :=
      if (dictGet server "obfs").truthy ∧ (dictGet server "obfs_password").truthy then
        dictUpdate outbound [("obfs", .obj [("type", dictGet server "obfs"),
          ("password", dictGet server "obfs_password")])]
      else outbound
    singboxTls outbound server true
  else if isProtocol server ["tuic"] then
    let outbound := dictUpdate outbound [("type", .str "tuic"), ("uuid", .str uuid),
      ("password", .str uuid),
      ("congestion_control", (dictGet server "congestion_control").or (.str "cubic")),
      ("udp_relay_mode", (dictGet server "udp_relay_mode").or (.str "native")),
      ("zero_rtt_handshake", dictGet server "zero_rtt_handshake")]
    singboxTls outbound server true
  else if isProtocol server ["anytls"] then
    let outbound := dictUpdate outbound [("type", .str "anytls"), ("password", .str uuid)]
    singboxTls outbound server true
  else return outbound

end PyBoard.Template
