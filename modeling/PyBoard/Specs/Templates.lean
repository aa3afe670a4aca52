/-
  PyBoard.Specs.Templates — what the macros read of a server.

  Main results:
    * `networkSetting_key` — a setting of the network, by its name.
    * `configureVmessNetwork_ok`, `uriTransportParams_ok`, `clashTransport_ok`,
      `singboxTransport_ok` — the keys of the transport, for the four networks that have one.
-/
import PyBoard.Specs.Subscribe
import PyBoard.Templates.Documents

namespace PyBoard.Template

variable {rt : Runtime} {fm : Formats} {to_json : Json → Except PyExc String}

/-! ## §1. Fields. -/

theorem networkSetting_key {server settings : JsonDict}
    (hsettings : dictGet server "network_settings" = .obj settings) (name d : String) :
    networkSetting server [name] d = .ok ((dictGet settings name).or (.str d)) := by
  have hget : dictGet settings name = (Json.lookup settings name).getD .null := rfl
  unfold networkSetting Value.path
  rw [hsettings, hget, List.foldlM_cons]
  cases hfound : Json.lookup settings name with
  | none =>
      have hattr : Value.attr (.val (.obj settings)) name = .ok .undefined := by
        simp only [Value.attr, hfound]
      rw [hattr]
      rfl
  | some v =>
      have hattr : Value.attr (.val (.obj settings)) name = .ok (.val v) := by
        simp only [Value.attr, hfound]
      rw [hattr]
      rfl

theorem onNetwork_of_eq {server : JsonDict} {network : String}
    (hnetwork : dictGet server "network" = .str network) (names : List String) :
    onNetwork server names = names.any fun name => network = name := by
  unfold onNetwork
  rw [hnetwork]
  rfl

theorem isProtocol_of_eq {server : JsonDict} {protocol : String}
    (hprotocol : dictGet server "protocol" = .str protocol) (names : List String) :
    isProtocol server names = names.any fun name => protocol = name := by
  unfold isProtocol
  rw [hprotocol]
  rfl

theorem tcpHttp_of_ne {server : JsonDict} {network : String}
    (hnetwork : dictGet server "network" = .str network) (h : network ≠ "tcp") :
    tcpHttp server = .ok false := by
  unfold tcpHttp
  rw [onNetwork_of_eq hnetwork]
  simp [h]

/-! ## §2. Transports. -/

/-- What the entry of a node says about its transport; what it leaves out is empty. -/
structure Transport where
  path : Json
  host : Json
  service : Json
  deriving DecidableEq

/-- The value under a key of a dict in an entry. -/
def member (v : Json) (k : String) : Json :=
  match v with
  | .obj fields => dictGet fields k
  | _ => .null

/-- A key that is left out says nothing. -/
def carried (v : Json) : Json := if v = .null then .str "" else v

theorem carried_text (s : String) : carried (.str s) = .str s := rfl

theorem carried_null : carried .null = .str "" := rfl

theorem carried_or (v : Json) (d : String) : carried (v.or (.str d)) = v.or (.str d) := by
  unfold carried
  rw [if_neg]
  intro hnull
  unfold Json.or at hnull
  split at hnull
  · next htruthy =>
    rw [hnull] at htruthy
    cases htruthy
  · cases hnull

/-- A vmess link has the service name in the place of the path. -/
def vmessTransport (cfg : JsonDict) : Transport :=
  if dictGet cfg "net" = .str "grpc" then
    ⟨.str "", carried (dictGet cfg "host"), carried (dictGet cfg "path")⟩
  else ⟨carried (dictGet cfg "path"), carried (dictGet cfg "host"), .str ""⟩

def vlessTransport (params : JsonDict) : Transport :=
  ⟨carried (dictGet params "path"), carried (dictGet params "host"),
    carried (dictGet params "serviceName")⟩

def clashTransportOf (proxy : JsonDict) : Transport :=
  let ws := dictGet proxy "ws-opts"
  ⟨carried (member ws "path"), carried (member (member ws "headers") "Host"),
    carried (member (dictGet proxy "grpc-opts") "grpc-service-name")⟩

/-- The first of the listed hosts. -/
def firstHost : Json → Json
  | .arr (host :: _) => host
  | _ => .null

/-- The host of a ws transport is listed among its headers. -/
def singboxTransportOf (outbound : JsonDict) : Transport :=
  let transport := dictGet outbound "transport"
  let host :=
    if member transport "type" = .str "ws" then
      firstHost (member (member transport "headers") "Host")
    else member transport "host"
  ⟨carried (member transport "path"), carried host, carried (member transport "service_name")⟩

/-- The networks that carry a path, a host or a service name. -/
def transportNetworks : List String := ["ws", "grpc", "httpupgrade", "xhttp"]

/-- Where the host of a network is set. -/
def hostNames (network : String) : List String :=
  if network = "ws" then ["headers", "Host"] else ["host"]

/-- The host that is set, for a network that has one. -/
def HostOf (server : JsonDict) (network : String) (host : Json) : Prop :=
  network ≠ "grpc" → networkSetting server (hostNames network) "" = .ok host

/-- The transport that is set, with a path for want of one. -/
def transportOf (settings : JsonDict) (network : String) (host : Json) (d : String) : Transport :=
  if network = "grpc" then
    ⟨.str "", .str "", (dictGet settings "serviceName").or (.str "")⟩
  else ⟨(dictGet settings "path").or (.str d), host, .str ""⟩

theorem networkSetting_carried {server : JsonDict} {names : List String} {d : String} {v : Json}
    (h : networkSetting server names d = .ok v) : carried v = v := by
  unfold networkSetting at h
  cases hpath : Value.path (dictGet server "network_settings") names with
  | error e =>
      rw [hpath] at h
      cases h
  | ok value =>
      rw [hpath] at h
      injection h with h
      rw [← h]
      cases value with
      | undefined => simp [Value.orDefault, carried]
      | val v => exact carried_or v d

section

variable {server settings : JsonDict} {network : String}
  (hnetwork : dictGet server "network" = .str network)
  (hsettings : dictGet server "network_settings" = .obj settings)

include hnetwork hsettings

/-- What `configure_vmess_network` sets. -/
theorem vmessTransport_configure {cfg cfg' : JsonDict} (hmem : network ∈ transportNetworks)
    (hnet : dictGet cfg "net" = .str network) (hhost : dictGet cfg "host" = .str "")
    (h : configureVmessNetwork cfg server = .ok cfg') :
    ∃ host, HostOf server network host ∧
      vmessTransport cfg' = transportOf settings network host "" := by
  have htcp : network ≠ "tcp" := by
    rintro rfl
    revert hmem
    decide
  unfold configureVmessNetwork at h
  simp only [tcpHttp_of_ne hnetwork htcp, onNetwork_of_eq hnetwork,
    networkSetting_key hsettings] at h
  simp only [transportNetworks, List.mem_cons, List.not_mem_nil, or_false] at hmem
  rcases hmem with rfl | rfl | rfl | rfl
  · cases hset : networkSetting server ["headers", "Host"] "" with
    | error e => simp [hset, bind, Except.bind] at h
    | ok host =>
        have hcarried := networkSetting_carried hset
        simp [hset, bind, Except.bind, pure, Except.pure] at h
        refine ⟨host, fun _ => hset, ?_⟩
        simp [← h, vmessTransport, transportOf, dictUpdate_cons, dictUpdate_nil, dictGet_dictSet,
          hnet, hcarried, carried_or]
  · simp [bind, Except.bind, pure, Except.pure] at h
    refine ⟨.null, fun hne => absurd rfl hne, ?_⟩
    simp [← h, vmessTransport, transportOf, dictUpdate_cons, dictUpdate_nil, dictGet_dictSet,
      hnet, hhost, carried_text, carried_or]
  · simp [bind, Except.bind, pure, Except.pure] at h
    refine ⟨_, fun _ => networkSetting_key hsettings "host" "", ?_⟩
    simp [← h, vmessTransport, transportOf, dictUpdate_cons, dictUpdate_nil, dictGet_dictSet,
      hnet, carried_or]
  · simp [bind, Except.bind, pure, Except.pure] at h
    refine ⟨_, fun _ => networkSetting_key hsettings "host" "", ?_⟩
    simp [← h, vmessTransport, transportOf, dictUpdate_cons, dictUpdate_nil, dictGet_dictSet,
      hnet, carried_or]

/-- What `uri_transport_params` sets. -/
theorem vlessTransport_params {params params' : JsonDict} (hmem : network ∈ transportNetworks)
    (hpath : dictGet params "path" = .str "") (hhost : dictGet params "host" = .str "")
    (hservice : dictGet params "serviceName" = .str "")
    (h : uriTransportParams params server = .ok params') :
    ∃ host, HostOf server network host ∧
      vlessTransport params' = transportOf settings network host "" := by
  unfold uriTransportParams at h
  simp only [onNetwork_of_eq hnetwork, networkSetting_key hsettings] at h
  simp only [transportNetworks, List.mem_cons, List.not_mem_nil, or_false] at hmem
  rcases hmem with rfl | rfl | rfl | rfl
  · cases hset : networkSetting server ["headers", "Host"] "" with
    | error e => simp [hset, bind, Except.bind] at h
    | ok host =>
        have hcarried := networkSetting_carried hset
        simp [hset, bind, Except.bind, pure, Except.pure] at h
        refine ⟨host, fun _ => hset, ?_⟩
        simp [← h, vlessTransport, transportOf, dictUpdate_cons, dictUpdate_nil, dictGet_dictSet,
          hservice, hcarried, carried_or, carried_text]
  · simp [bind, Except.bind, pure, Except.pure] at h
    refine ⟨.null, fun hne => absurd rfl hne, ?_⟩
    simp [← h, vlessTransport, transportOf, dictUpdate_cons, dictUpdate_nil, dictGet_dictSet,
      hpath, hhost, carried_text, carried_or]
  · simp [bind, Except.bind, pure, Except.pure] at h
    refine ⟨_, fun _ => networkSetting_key hsettings "host" "", ?_⟩
    simp [← h, vlessTransport, transportOf, dictUpdate_cons, dictUpdate_nil, dictGet_dictSet,
      hservice, carried_or, carried_text]
  · simp [bind, Except.bind, pure, Except.pure] at h
    refine ⟨_, fun _ => networkSetting_key hsettings "host" "", ?_⟩
    simp [← h, vlessTransport, transportOf, dictUpdate_cons, dictUpdate_nil, dictGet_dictSet,
      hservice, carried_or, carried_text]

/-- What `clash_transport` sets: nothing of the two HTTP upgrades but the network. -/
theorem clashTransportOf_transport {proxy proxy' : JsonDict} (hmem : network ∈ transportNetworks)
    (hws : dictGet proxy "ws-opts" = .null) (hgrpc : dictGet proxy "grpc-opts" = .null)
    (h : clashTransport proxy server = .ok proxy') :
    if network = "ws" ∨ network = "grpc" then
      ∃ host, HostOf server network host ∧
        clashTransportOf proxy' = transportOf settings network host "/"
    else clashTransportOf proxy' = ⟨.str "", .str "", .str ""⟩ := by
  unfold clashTransport at h
  simp only [onNetwork_of_eq hnetwork, networkSetting_key hsettings] at h
  simp only [transportNetworks, List.mem_cons, List.not_mem_nil, or_false] at hmem
  rcases hmem with rfl | rfl | rfl | rfl
  · rw [if_pos (by decide)]
    cases hset : networkSetting server ["headers", "Host"] "" with
    | error e => simp [hset, bind, Except.bind] at h
    | ok host =>
        have hcarried := networkSetting_carried hset
        simp [hset, bind, Except.bind, pure, Except.pure] at h
        refine ⟨host, fun _ => hset, ?_⟩
        simp [← h, clashTransportOf, transportOf, dictUpdate_cons, dictUpdate_nil,
          dictGet_dictSet, hgrpc, member, dictGet_cons, hcarried, carried_or, carried_null]
  · rw [if_pos (by decide)]
    simp [bind, Except.bind, pure, Except.pure] at h
    refine ⟨.null, fun hne => absurd rfl hne, ?_⟩
    simp [← h, clashTransportOf, transportOf, dictUpdate_cons, dictUpdate_nil, dictGet_dictSet,
      hws, member, dictGet_cons, carried_null, carried_or]
  · rw [if_neg (by decide)]
    simp [pure, Except.pure] at h
    simp [← h, clashTransportOf, dictUpdate_cons, dictUpdate_nil, dictGet_dictSet, hws, hgrpc,
      member, carried_null]
  · rw [if_neg (by decide)]
    simp [pure, Except.pure] at h
    simp [← h, clashTransportOf, dictUpdate_cons, dictUpdate_nil, dictGet_dictSet, hws, hgrpc,
      member, carried_null]

/-- What `singbox_transport` sets. -/
theorem singboxTransportOf_transport {outbound outbound' : JsonDict}
    (hmem : network ∈ transportNetworks) (h : singboxTransport outbound server = .ok outbound') :
    ∃ host, HostOf server network host ∧
      singboxTransportOf outbound' = transportOf settings network host "/" := by
  unfold singboxTransport at h
  simp only [onNetwork_of_eq hnetwork, networkSetting_key hsettings] at h
  simp only [transportNetworks, List.mem_cons, List.not_mem_nil, or_false] at hmem
  rcases hmem with rfl | rfl | rfl | rfl
  · cases hset : networkSetting server ["headers", "Host"] "" with
    | error e => simp [hset, bind, Except.bind] at h
    | ok host =>
        have hcarried := networkSetting_carried hset
        simp [hset, bind, Except.bind, pure, Except.pure] at h
        refine ⟨host, fun _ => hset, ?_⟩
        simp [← h, singboxTransportOf, transportOf, dictUpdate_cons, dictUpdate_nil,
          dictGet_dictSet, member, dictGet_cons, firstHost, hcarried, carried_or, carried_null]
  · simp [bind, Except.bind, pure, Except.pure] at h
    refine ⟨.null, fun hne => absurd rfl hne, ?_⟩
    simp [← h, singboxTransportOf, transportOf, dictUpdate_cons, dictUpdate_nil, dictGet_dictSet,
      member, dictGet_cons, carried_null, carried_or]
  · simp [bind, Except.bind, pure, Except.pure] at h
    refine ⟨_, fun _ => networkSetting_key hsettings "host" "", ?_⟩
    simp [← h, singboxTransportOf, transportOf, dictUpdate_cons, dictUpdate_nil, dictGet_dictSet,
      hnetwork, member, dictGet_cons, carried_or, carried_null]
  · simp [bind, Except.bind, pure, Except.pure] at h
    refine ⟨_, fun _ => networkSetting_key hsettings "host" "", ?_⟩
    simp [← h, singboxTransportOf, transportOf, dictUpdate_cons, dictUpdate_nil, dictGet_dictSet,
      hnetwork, member, dictGet_cons, carried_or, carried_null]

end

end PyBoard.Template
