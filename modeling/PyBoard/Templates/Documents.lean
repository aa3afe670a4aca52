/-
  PyBoard.Templates.Documents — the subscription documents.

  Each definition is the template of its name, rendered for a user and the servers that
  `getAvailableServers` returns.  The environment trims blocks, so a line that holds only
  a block leaves nothing behind, and drops the last line break of a template.
-/
import PyBoard.Templates.Protocols

namespace PyBoard.Template

variable (rt : Runtime) (fm : Formats) (to_json : Json → Except PyExc String)

/-- `server.name | to_json`, for every server. -/
def nameTexts (servers : List JsonDict) : Except PyExc (List String) :=
  servers.mapM fun server => to_json (dictGet server "name")

/-! ## §1. `general.txt.j2`. -/

/-- The links, one a line. -/
def general (user : User) (servers : List JsonDict) : Except PyExc String := do
  let uris ← servers.mapM fun server => (uri rt fm to_json user.uuid server).map trim
  return String.join ((uris.filter (· ≠ "")).map fun uri => uri ++ "\n")

/-! ## §2. `singbox.json.j2`. -/

/-- The lines of the outbounds; they are not broken. -/
def singboxOutbounds (user : User) (servers : List JsonDict) (singbox_old : Bool) :
    Except PyExc String := do
  let outbounds ← servers.mapM fun server => do
    let text ← to_json (.obj (← singboxOutbound user.uuid server singbox_old))
    return "    " ++ trim text
  return ",".intercalate outbounds

def singbox (user : User) (servers : List JsonDict) (singbox_old : Bool) :
    Except PyExc String := do
  let names ← nameTexts to_json servers
  let outbounds ← singboxOutbounds to_json user servers singbox_old
  return "\x7b\n" ++
    "  \"log\": \x7b\"level\": \"warn\", \"timestamp\": true\x7d,\n" ++
    "  \"outbounds\": [\n" ++
    "    \x7b\"type\": \"selector\", \"tag\": \"proxy\", \"outbounds\": [" ++
      String.join (names.map (· ++ ", ")) ++ "\"direct\"]\x7d,\n" ++
    "    \x7b\"type\": \"urltest\", \"tag\": \"auto\", \"outbounds\": [" ++
      ", ".intercalate names ++ "]\x7d,\n" ++
    "    \x7b\"type\": \"direct\", \"tag\": \"direct\"\x7d,\n" ++
    "    \x7b\"type\": \"block\", \"tag\": \"block\"\x7d" ++ (if servers = [] then "" else ",") ++
      outbounds ++
    "  ],\n" ++
    "  \"route\": \x7b\"final\": \"proxy\"\x7d\n" ++
    "\x7d"

/-! ## §3. `sip008.json.j2`. -/

/-- One server. -/
def sip008Server (user : User) (server : JsonDict) : Except PyExc String := do
  let remarks ← to_json (dictGet server "name")
  let host ← to_json (dictGet server "host")
  let password ← to_json (.str user.uuid)
  let method ← to_json (dictGet server "cipher")
  return "    \x7b\n" ++
    "      \"id\": " ++ rt.str (dictGet server "id") ++ ",\n" ++
    "      \"remarks\": " ++ remarks ++ ",\n" ++
    "      \"server\": " ++ host ++ ",\n" ++
    "      \"server_port\": " ++ rt.str (dictGet server "first_port_int") ++ ",\n" ++
    "      \"password\": " ++ password ++ ",\n" ++
    "      \"method\": " ++ method ++ "\n" ++
    "    \x7d\n"

/-- `servers if server.sip008`. -/
def sip008Servers (servers : List JsonDict) : List JsonDict :=
  servers.filter fun server => (dictGet server "sip008").truthy

def sip008 (user : User) (servers : List JsonDict) : Except PyExc String := do
  let texts ← (sip008Servers servers).mapM (sip008Server rt to_json user)
  return "\x7b\n" ++
    "  \"version\": 1,\n" ++
    "  \"bytes_used\": " ++ toString (user.u + user.d) ++ ",\n" ++
    "  \"bytes_remaining\": " ++ toString (max (user.transfer_enable - user.u - user.d) 0) ++
      ",\n" ++
    "  \"servers\": [\n" ++ ",".intercalate texts ++
    "  ]\n" ++
    "\x7d"

/-! ## §4. `clash.yaml.j2`. -/

/-- `proto.clash_proxy(user, server) | trim`. -/
def clashProxyText (user : User) (server : JsonDict) : Except PyExc String := do
  match ← clashProxy user.uuid server with
  | some proxy => return trim (← to_json (.obj proxy))
  | none => return ""

/-- The lines of the proxies. -/
def clashProxies (user : User) (servers : List JsonDict) : Except PyExc (List String) := do
  let proxies ← servers.mapM (clashProxyText to_json user)
  return (proxies.filter (· ≠ "")).map ("  - " ++ ·)

/-- The line of a server in the group, if it has a proxy. -/
def clashGroupLine (user : User) (server : JsonDict) : Except PyExc (List String) := do
  let proxy ← clashProxyText to_json user server
  if proxy ≠ "" then return ["      - " ++ (← to_json (dictGet server "name"))]
  else return []

def clash (user : User) (servers : List JsonDict) : Except PyExc String := do
  let proxies ← clashProxies to_json user servers
  let group ← servers.mapM (clashGroupLine to_json user)
  return "\n".intercalate
    (["mixed-port: 7890", "allow-lan: true", "mode: rule", "log-level: warning", "", "proxies:"] ++
      proxies ++
      ["", "proxy-groups:", "  - name: PROXY", "    type: select", "    proxies:"] ++
      group.flatten ++
      ["      - DIRECT", "", "rules:", "  - MATCH,PROXY"])

end PyBoard.Template
