/-
  PyBoard.Results.Transport — the transport of a node in three subscriptions.

  A link, a Clash proxy and a sing-box outbound are filled in by three macros.  They agree
  about ws and grpc.  Of httpupgrade and xhttp the Clash proxy only names the network, so
  there they agree when neither a path nor a host is set.

  Main result: `transports_agree_iff`.
-/
import PyBoard.Python.Utc
import PyBoard.Services.ServerAdmin
import PyBoard.Specs.Templates

namespace PyBoard

open SubscribeService Template

variable {rt : Runtime} {fm : Formats} {to_json : Json → Except PyExc String}

/-! ## §1. Entries. -/

/-- An absent path means the root. -/
def plainPath (path : Json) : Json := if path = .str "/" then .str "" else path

/-- Two entries carry the same transport. -/
def Template.Transport.Same (a b : Transport) : Prop :=
  plainPath a.path = plainPath b.path ∧ a.host = b.host ∧ a.service = b.service

instance (a b : Transport) : Decidable (a.Same b) := inferInstanceAs (Decidable (_ ∧ _ ∧ _))

/-- What the link of a vmess or vless node carries. -/
def linkTransport (rt : Runtime) (uuid : String) (server : JsonDict) : Except PyExc Transport :=
  if isProtocol server ["vmess"] then (vmessCfg rt uuid server).map vmessTransport
  else (vlessParams server).map vlessTransport

/-- The network settings of a node. -/
def networkSettings (rt : Runtime) (node : ServerV2Node) : JsonDict :=
  dictOrEmpty (settingsOf rt node.network_settings)

/-- The node has a transport that every format carries. -/
def CarriedAlike (rt : Runtime) (node : ServerV2Node) : Prop :=
  node.network = "ws" ∨ node.network = "grpc" ∨
    plainPath ((dictGet (networkSettings rt node) "path").or (.str "")) = .str "" ∧
      (dictGet (networkSettings rt node) "host").or (.str "") = .str ""

/-! ## §2. The fields of an entry. -/

section

variable {node : ServerV2Node} {uuid : String} {server : JsonDict}
  (hserver : nodeToSubscribeDict rt fm node uuid = .ok server)

include hserver

theorem entry_network (h : node.network ≠ "") : dictGet server "network" = .str node.network := by
  refine dictGet_entry_normalized hserver ?_
  simp [normalized, h]

theorem entry_protocol (h : node.protocol ≠ "") :
    dictGet server "protocol" = .str node.protocol := by
  refine dictGet_entry_normalized hserver ?_
  simp [normalized, h]

theorem entry_networkSettings :
    dictGet server "network_settings" = .obj (networkSettings rt node) :=
  dictGet_entry_normalized hserver (by simp [normalized, networkSettings])

end

/-! ## §3. Frames. -/

/-- A Reality update leaves the other keys alone. -/
theorem updateReality_frame {params params' server items : JsonDict}
    (h : updateReality params server items = .ok params') {k : String}
    (hk : k ∉ "pbk" :: "sid" :: items.map Prod.fst) : dictGet params' k = dictGet params k := by
  unfold updateReality at h
  split at h
  · obtain ⟨public_key, -, h⟩ := except_bind_ok h
    obtain ⟨short_id, -, h⟩ := except_bind_ok h
    rw [← Except.ok.inj h]
    refine dictGet_dictUpdate_of_not_mem _ _ ?_
    intro f hf heq
    rcases List.mem_append.mp hf with hitem | hown
    · exact hk (heq ▸ List.mem_cons_of_mem _ (List.mem_cons_of_mem _ (List.mem_map_of_mem hitem)))
    · rw [List.mem_cons, List.mem_singleton] at hown
      rcases hown with rfl | rfl
      · exact hk (heq ▸ List.mem_cons_self)
      · exact hk (heq ▸ List.mem_cons_of_mem _ List.mem_cons_self)
  · rw [← Except.ok.inj h]

/-- The keys of TLS are none of those of the transport. -/
theorem clashTls_frame {proxy proxy' server : JsonDict} (h : clashTls proxy server = .ok proxy')
    {k : String} (hk : k ∉ ["tls", "skip-cert-verify", "servername", "client-fingerprint",
      "reality-opts"]) : dictGet proxy' k = dictGet proxy k := by
  simp only [List.mem_cons, List.not_mem_nil, or_false, not_or] at hk
  obtain ⟨h1, h2, h3, h4, h5⟩ := hk
  unfold clashTls at h
  split at h
  · obtain ⟨fingerprint, -, h⟩ := except_bind_ok h
    dsimp only at h
    split at h
    · obtain ⟨public_key, -, h⟩ := except_bind_ok h
      obtain ⟨short_id, -, h⟩ := except_bind_ok h
      rw [← Except.ok.inj h]
      simp [dictUpdate_cons, dictUpdate_nil, dictGet_dictSet, h1, h2, h3, h4, h5]
    · rw [← Except.ok.inj h]
      simp [dictUpdate_cons, dictUpdate_nil, dictGet_dictSet, h1, h2, h3, h4]
  · rw [← Except.ok.inj h]

/-! ## §4. The three entries. -/

section

variable {server settings : JsonDict} {network : String}
  (hnetwork : dictGet server "network" = .str network)
  (hsettings : dictGet server "network_settings" = .obj settings)
  (hmem : network ∈ transportNetworks)

include hnetwork hsettings hmem

theorem vmessCfg_transport {uuid : String} {cfg : JsonDict}
    (h : vmessCfg rt uuid server = .ok cfg) :
    ∃ host, HostOf server network host ∧
      vmessTransport cfg = transportOf settings network host "" := by
  unfold vmessCfg at h
  obtain ⟨fingerprint, -, h⟩ := except_bind_ok h
  refine vmessTransport_configure hnetwork hsettings hmem ?_ ?_ h
  · split <;>
      simp [dictUpdate_cons, dictUpdate_nil, dictGet_dictSet, dictGet_cons, hnetwork]
  · split <;> simp [dictUpdate_cons, dictUpdate_nil, dictGet_dictSet, dictGet_cons]

theorem vlessParams_transport {params : JsonDict} (h : vlessParams server = .ok params) :
    ∃ host, HostOf server network host ∧
      vlessTransport params = transportOf settings network host "" := by
  unfold vlessParams at h
  obtain ⟨fingerprint, -, h⟩ := except_bind_ok h
  obtain ⟨filled, hreality, h⟩ := except_bind_ok h
  -- the base sets the three keys, and nothing before the transport touches them
  have hbase : ∀ k ∈ ["path", "host", "serviceName"], dictGet filled k = .str "" := by
    intro k hk
    rw [updateReality_frame hreality]
    · simp only [List.mem_cons, List.not_mem_nil, or_false] at hk
      rcases hk with rfl | rfl | rfl <;> split <;>
        simp [dictUpdate_cons, dictUpdate_nil, dictGet_dictSet, dictGet_cons]
    · revert k
      decide
  have hkept : ∀ k ∈ ["path", "host", "serviceName"],
      dictGet (if (dictGet server "vless_encryption").truthy then
        dictUpdate filled [("encryption", dictGet server "vless_encryption")] else filled) k =
          .str "" := by
    intro k hk
    split
    · rw [dictUpdate_cons, dictUpdate_nil, dictGet_dictSet, if_neg, hbase k hk]
      rintro rfl
      revert hk
      decide
    · exact hbase k hk
  exact vlessTransport_params hnetwork hsettings hmem (hkept "path" (by decide))
    (hkept "host" (by decide)) (hkept "serviceName" (by decide)) h

/-- The keys of the transport, of a proxy that is then given TLS. -/
theorem clashTransportOf_tls {base proxy proxy' : JsonDict}
    (hws : dictGet base "ws-opts" = .null) (hgrpc : dictGet base "grpc-opts" = .null)
    (htransport : clashTransport base server = .ok proxy)
    (htls : clashTls proxy server = .ok proxy') :
    if network = "ws" ∨ network = "grpc" then
      ∃ host, HostOf server network host ∧
        clashTransportOf proxy' = transportOf settings network host "/"
    else clashTransportOf proxy' = ⟨.str "", .str "", .str ""⟩ := by
  have hsame : clashTransportOf proxy' = clashTransportOf proxy := by
    unfold clashTransportOf
    rw [clashTls_frame htls (by decide), clashTls_frame htls (by decide)]
  rw [hsame]
  exact clashTransportOf_transport hnetwork hsettings hmem hws hgrpc htransport

theorem clashProxy_transport {uuid : String} {proxy : JsonDict}
    (hprotocol : dictGet server "protocol" = .str "vmess" ∨
      dictGet server "protocol" = .str "vless")
    (h : clashProxy uuid server = .ok (some proxy)) :
    if network = "ws" ∨ network = "grpc" then
      ∃ host, HostOf server network host ∧
        clashTransportOf proxy = transportOf settings network host "/"
    else clashTransportOf proxy = ⟨.str "", .str "", .str ""⟩ := by
  unfold clashProxy at h
  rcases hprotocol with hprotocol | hprotocol
  · simp only [isProtocol_of_eq hprotocol] at h
    simp only [List.any_cons, List.any_nil, String.reduceEq, decide_false, decide_true,
      Bool.or_false, Bool.false_eq_true, if_false, if_true] at h
    obtain ⟨filled, htransport, h⟩ := except_bind_ok h
    obtain ⟨proxy', htls, h⟩ := except_bind_ok h
    rw [← Option.some.inj (Except.ok.inj h)]
    refine clashTransportOf_tls hnetwork hsettings hmem ?_ ?_ htransport htls
    · simp [dictUpdate_cons, dictUpdate_nil, dictGet_dictSet, dictGet_cons]
    · simp [dictUpdate_cons, dictUpdate_nil, dictGet_dictSet, dictGet_cons]
  · simp only [isProtocol_of_eq hprotocol] at h
    simp only [List.any_cons, List.any_nil, String.reduceEq, decide_false, decide_true,
      Bool.or_false, Bool.false_eq_true, if_false, if_true] at h
    obtain ⟨filled, htransport, h⟩ := except_bind_ok h
    obtain ⟨proxy', htls, h⟩ := except_bind_ok h
    rw [← Option.some.inj (Except.ok.inj h)]
    refine clashTransportOf_tls hnetwork hsettings hmem ?_ ?_ htransport htls
    · split <;> split <;> simp [dictUpdate_cons, dictUpdate_nil, dictGet_dictSet, dictGet_cons]
    · split <;> split <;> simp [dictUpdate_cons, dictUpdate_nil, dictGet_dictSet, dictGet_cons]

theorem singboxOutbound_transport {uuid : String} {old : Bool} {outbound : JsonDict}
    (hprotocol : dictGet server "protocol" = .str "vmess" ∨
      dictGet server "protocol" = .str "vless")
    (h : singboxOutbound uuid server old = .ok outbound) :
    ∃ host, HostOf server network host ∧
      singboxTransportOf outbound = transportOf settings network host "/" := by
  unfold singboxOutbound at h
  rcases hprotocol with hprotocol | hprotocol
  · simp only [isProtocol_of_eq hprotocol] at h
    simp only [List.any_cons, List.any_nil, String.reduceEq, decide_false, decide_true,
      Bool.or_false, Bool.false_eq_true, if_false, if_true] at h
    obtain ⟨filled, -, h⟩ := except_bind_ok h
    exact singboxTransportOf_transport hnetwork hsettings hmem h
  · simp only [isProtocol_of_eq hprotocol] at h
    simp only [List.any_cons, List.any_nil, String.reduceEq, decide_false, decide_true,
      Bool.or_false, Bool.false_eq_true, if_false, if_true] at h
    obtain ⟨filled, -, h⟩ := except_bind_ok h
    exact singboxTransportOf_transport hnetwork hsettings hmem h

/-- A link that is written carries the transport that is set. -/
theorem linkTransport_of_uri {uuid text : String}
    (hprotocol : dictGet server "protocol" = .str "vmess" ∨
      dictGet server "protocol" = .str "vless")
    (h : uri rt fm to_json uuid server = .ok text) :
    ∃ link host, linkTransport rt uuid server = .ok link ∧ HostOf server network host ∧
      link = transportOf settings network host "" := by
  unfold uri at h
  unfold linkTransport
  rcases hprotocol with hprotocol | hprotocol
  · simp only [isProtocol_of_eq hprotocol] at h ⊢
    simp only [List.any_cons, List.any_nil, String.reduceEq, decide_false, decide_true,
      Bool.or_false, Bool.false_eq_true, if_false, if_true] at h ⊢
    obtain ⟨cfg, hcfg, h⟩ := except_bind_ok h
    obtain ⟨host, hhost, heq⟩ := vmessCfg_transport hnetwork hsettings hmem hcfg
    exact ⟨_, host, by rw [hcfg]; rfl, hhost, heq⟩
  · simp only [isProtocol_of_eq hprotocol] at h ⊢
    simp only [List.any_cons, List.any_nil, String.reduceEq, decide_false, decide_true,
      Bool.or_false, Bool.false_eq_true, if_false, if_true] at h ⊢
    obtain ⟨params, hparams, h⟩ := except_bind_ok h
    obtain ⟨host, hhost, heq⟩ := vlessParams_transport hnetwork hsettings hmem hparams
    exact ⟨_, host, by rw [hparams]; rfl, hhost, heq⟩

end

/-! ## §5. Agreement. -/

/-- A path that is not set is the root, with either default. -/
theorem plainPath_or (v : Json) :
    plainPath (v.or (.str "")) = plainPath (v.or (.str "/")) := by
  unfold Json.or
  split
  · rfl
  · rfl

theorem transportOf_same {server settings : JsonDict} {network : String} {host host' : Json}
    (h : HostOf server network host) (h' : HostOf server network host') :
    (transportOf settings network host "").Same (transportOf settings network host' "/") := by
  unfold transportOf
  by_cases hgrpc : network = "grpc"
  · rw [if_pos hgrpc, if_pos hgrpc]
    exact ⟨rfl, rfl, rfl⟩
  · rw [if_neg hgrpc, if_neg hgrpc]
    have hhost := (h hgrpc).symm.trans (h' hgrpc)
    exact ⟨plainPath_or _, Except.ok.inj hhost, rfl⟩

/-- A vmess or vless node has a Clash proxy. -/
theorem clashProxy_some {uuid : String} {server : JsonDict} {found : Option JsonDict}
    (hprotocol : dictGet server "protocol" = .str "vmess" ∨
      dictGet server "protocol" = .str "vless")
    (h : clashProxy uuid server = .ok found) : ∃ proxy, found = some proxy := by
  unfold clashProxy at h
  rcases hprotocol with hprotocol | hprotocol
  · simp only [isProtocol_of_eq hprotocol] at h
    simp only [List.any_cons, List.any_nil, String.reduceEq, decide_false, decide_true,
      Bool.or_false, Bool.false_eq_true, if_false, if_true] at h
    obtain ⟨filled, -, h⟩ := except_bind_ok h
    obtain ⟨proxy, -, h⟩ := except_bind_ok h
    exact ⟨proxy, (Except.ok.inj h).symm⟩
  · simp only [isProtocol_of_eq hprotocol] at h
    simp only [List.any_cons, List.any_nil, String.reduceEq, decide_false, decide_true,
      Bool.or_false, Bool.false_eq_true, if_false, if_true] at h
    obtain ⟨filled, -, h⟩ := except_bind_ok h
    obtain ⟨proxy, -, h⟩ := except_bind_ok h
    exact ⟨proxy, (Except.ok.inj h).symm⟩

/-- The link, the Clash proxy and the sing-box outbound of a vmess or vless node carry one
    transport exactly when the network is ws or grpc, or no path and no host are set. -/
theorem transports_agree_iff {node : ServerV2Node} {user : User} {server : JsonDict} {old : Bool}
    {link_text proxy_text outbound_text : String}
    (hprotocol : node.protocol = "vmess" ∨ node.protocol = "vless")
    (hnetwork : node.network ∈ transportNetworks)
    (hserver : nodeToSubscribeDict rt fm node user.uuid = .ok server)
    (hlink : uri rt fm to_json user.uuid server = .ok link_text)
    (hproxy : clashProxyText to_json user server = .ok proxy_text)
    (houtbound : (singboxOutbound user.uuid server old >>= fun o => to_json (.obj o)) =
      .ok outbound_text) :
    ∃ link proxy outbound, linkTransport rt user.uuid server = .ok link ∧
      clashProxy user.uuid server = .ok (some proxy) ∧
      singboxOutbound user.uuid server old = .ok outbound ∧
      (link.Same (clashTransportOf proxy) ∧ link.Same (singboxTransportOf outbound) ↔
        CarriedAlike rt node) := by
  have hnet : dictGet server "network" = .str node.network := by
    refine entry_network hserver ?_
    intro hempty
    rw [hempty] at hnetwork
    revert hnetwork
    decide
  have hproto : dictGet server "protocol" = .str node.protocol := by
    refine entry_protocol hserver ?_
    intro hempty
    rw [hempty] at hprotocol
    revert hprotocol
    decide
  have hsettings := entry_networkSettings hserver
  have hkind : dictGet server "protocol" = .str "vmess" ∨
      dictGet server "protocol" = .str "vless" := by
    rw [hproto]
    exact hprotocol.imp (congrArg Json.str) (congrArg Json.str)
  obtain ⟨link, host, hl, hhost, heq⟩ := linkTransport_of_uri hnet hsettings hnetwork hkind hlink
  obtain ⟨found, hfound, hproxy⟩ := except_bind_ok hproxy
  obtain ⟨outbound, ho, -⟩ := except_bind_ok houtbound
  obtain ⟨host', hhost', hsingbox⟩ :=
    singboxOutbound_transport hnet hsettings hnetwork hkind ho
  have hsame : link.Same (singboxTransportOf outbound) := by
    rw [heq, hsingbox]
    exact transportOf_same hhost hhost'
  obtain ⟨proxy, rfl⟩ := clashProxy_some hkind hfound
  refine ⟨link, proxy, outbound, hl, hfound, ho, ?_⟩
  have hclash := clashProxy_transport hnet hsettings hnetwork hkind hfound
  by_cases hboth : node.network = "ws" ∨ node.network = "grpc"
  · rw [if_pos hboth] at hclash
    obtain ⟨host'', hhost'', hclash⟩ := hclash
    refine iff_of_true ⟨?_, hsame⟩ ?_
    · rw [heq, hclash]
      exact transportOf_same hhost hhost''
    · exact hboth.elim .inl fun hgrpc => .inr (.inl hgrpc)
  · rw [if_neg hboth] at hclash
    -- the proxy carries nothing, so the link must not either
    obtain ⟨hws, hgrpc⟩ := not_or.mp hboth
    have hset := hhost hgrpc
    unfold hostNames at hset
    rw [if_neg hws, networkSetting_key hsettings] at hset
    have hcarries : link = ⟨(dictGet (networkSettings rt node) "path").or (.str ""),
        (dictGet (networkSettings rt node) "host").or (.str ""), .str ""⟩ := by
      rw [heq, transportOf, if_neg hgrpc, Except.ok.inj hset]
    rw [and_iff_left hsame, hclash, hcarries]
    unfold CarriedAlike
    rw [or_iff_right hws, or_iff_right hgrpc]
    constructor
    · rintro ⟨hpath, hnone, -⟩
      exact ⟨hpath, hnone⟩
    · rintro ⟨hpath, hnone⟩
      exact ⟨hpath, hnone, rfl⟩

/-! Runs on fixed inputs. -/

/-- What the three entries of a node carry, when all of them are written. -/
def rendered (rt : Runtime) (fm : Formats) (to_json : Json → Except PyExc String) (user : User)
    (node : ServerV2Node) : Except PyExc (Transport × Transport × Transport) := do
  let server ← nodeToSubscribeDict rt fm node user.uuid
  let _link ← uri rt fm to_json user.uuid server
  let _proxy ← clashProxyText to_json user server
  let outbound ← singboxOutbound user.uuid server false
  let _outbound ← to_json (.obj outbound)
  let proxy ← clashProxy user.uuid server
  return (← linkTransport rt user.uuid server, clashTransportOf (proxy.getD []),
    singboxTransportOf outbound)

def reader : User :=
  { id := 1, email := "u@example.com", password := "", uuid := "uuid-1", token := "t" }

/-- A vless node on ws. -/
def wsNode : ServerV2Node :=
  { id := 1, group_id := .arr [.int 1], name := "n", host := "h", port := "443",
    server_port := 443, rate := "1", protocol := "vless", tls := 0, network := "ws",
    network_settings := .obj [("path", .str "/ws"), ("headers", .obj [("Host", .str "h")])] }

def wsServer : JsonDict :=
  (nodeToSubscribeDict Utc.bare plainFormats wsNode reader.uuid).toOption.getD []

def textOf (x : Except PyExc String) : String := x.toOption.getD ""

theorem transports_agree_iff_ws : ∃ link proxy outbound,
    linkTransport Utc.bare reader.uuid wsServer = .ok link ∧
      clashProxy reader.uuid wsServer = .ok (some proxy) ∧
      singboxOutbound reader.uuid wsServer false = .ok outbound ∧
      (link.Same (clashTransportOf proxy) ∧ link.Same (singboxTransportOf outbound) ↔
        CarriedAlike Utc.bare wsNode) := by
  have hserver : nodeToSubscribeDict Utc.bare plainFormats wsNode reader.uuid = .ok wsServer :=
    rfl
  have hlink : uri Utc.bare plainFormats plainDumps reader.uuid wsServer =
      .ok (textOf (uri Utc.bare plainFormats plainDumps reader.uuid wsServer)) :=
    rfl
  have hproxy : clashProxyText plainDumps reader wsServer =
      .ok (textOf (clashProxyText plainDumps reader wsServer)) :=
    rfl
  have houtbound : (singboxOutbound reader.uuid wsServer false >>= fun o => plainDumps (.obj o)) =
      .ok (textOf (singboxOutbound reader.uuid wsServer false >>= fun o =>
        plainDumps (.obj o))) :=
    rfl
  exact transports_agree_iff (.inr rfl) (by decide) hserver hlink hproxy houtbound

/-- A vless node on httpupgrade with a path and a host. -/
def upgradeFields : JsonDict :=
  [("group_id", .arr [.int 1]), ("route_id", .null), ("name", .str "n"), ("parent_id", .null),
    ("host", .str "h"), ("listen_ip", .str "0.0.0.0"), ("port", .str "443"),
    ("server_port", .int 443), ("tags", .null), ("rate", .str "1"), ("show", .bool true),
    ("sort", .null), ("protocol", .str "vless"), ("tls", .int 0), ("tls_settings", .null),
    ("flow", .null), ("network", .str "httpupgrade"),
    ("network_settings", .obj [("path", .str "/up"), ("host", .str "a.example")]),
    ("encryption", .null), ("encryption_settings", .null), ("disable_sni", .bool false),
    ("udp_relay_mode", .null), ("zero_rtt_handshake", .bool false),
    ("congestion_control", .null), ("cipher", .null), ("up_mbps", .int 0),
    ("down_mbps", .int 0), ("obfs", .null), ("obfs_password", .null), ("padding_scheme", .null)]

def upgradeRequest : ServerAdminService.ServerV2NodeCreate where
  fields := upgradeFields
  names := by decide
  typed := by
    intro f hf
    have hall : ∀ f ∈ upgradeFields, (ServerAdminService.fieldTypes.any fun g =>
        g.1 = f.1 && g.2.admits f.2) = true := by decide
    obtain ⟨g, hg, hadmits⟩ := List.any_eq_true.mp (hall f hf)
    simp only [Bool.and_eq_true, decide_eq_true_eq] at hadmits
    exact ⟨g.2, hadmits.1 ▸ hg, hadmits.2⟩
  given := by decide

/-- What a request draws, for runs on fixed inputs. -/
def zeroSecrets : ServerAdminService.NodeSecrets where
  public_key := ⟨List.replicate 32 0, rfl⟩
  private_key := ⟨List.replicate 32 0, rfl⟩
  obfs_password := ⟨List.replicate 12 0, rfl⟩

theorem upgrade_path_not_in_clash :
    (ServerAdminService.newNode Utc.bare plainFormats zeroSecrets upgradeRequest 1 1000 >>=
        rendered Utc.bare plainFormats plainDumps reader) =
      .ok (⟨.str "/up", .str "a.example", .str ""⟩, ⟨.str "", .str "", .str ""⟩,
        ⟨.str "/up", .str "a.example", .str ""⟩) ∧
    ¬ (⟨.str "/up", .str "a.example", .str ""⟩ : Transport).Same
      ⟨.str "", .str "", .str ""⟩ := by
  decide +kernel

end PyBoard
