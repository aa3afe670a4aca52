/-
  PyBoard.Specs.Subscribe — what the subscription service returns.

  `Visible` are the nodes that `/user/servers` shows to a user, in order; the dicts
  that it returns are made of these nodes one by one, with some copies of the first
  one in front when the settings ask for them.
-/
import PyBoard.Services.Subscribe

namespace PyBoard.SubscribeService

open Relational

variable {rt : Runtime} {fm : Formats}

/-! ## §1. One node. -/

/-- The id is none of the fields that are computed. -/
theorem preparedFields_ne_id {server tls_settings network_settings : JsonDict}
    {ss_password ss_plugin : String} : ∀ f ∈ preparedFields rt fm server ss_password ss_plugin
      tls_settings network_settings, f.1 ≠ "id" := by
  intro f hf
  have hkey := List.mem_map_of_mem (f := Prod.fst) hf
  intro heq
  rw [heq] at hkey
  revert hkey
  simp [preparedFields]

/-- What `_prepare_subscribe_server` returns. -/
theorem prepareSubscribeServer_ok {server prepared : JsonDict} {uuid : String}
    (h : prepareSubscribeServer rt fm server uuid = .ok prepared) :
    ∃ ss_password ss_plugin tls_settings network_settings, prepared = dictUpdate server
      (preparedFields rt fm server ss_password ss_plugin tls_settings network_settings) := by
  unfold prepareSubscribeServer at h
  dsimp only at h
  obtain ⟨ss_password, -, h⟩ := except_bind_ok h
  obtain ⟨ss_plugin, -, h⟩ := except_bind_ok h
  injection h with h
  exact ⟨ss_password, ss_plugin, _, _, h.symm⟩

/-- The dict of a node carries its id. -/
theorem nodeToSubscribeDict_id {node : ServerV2Node} {uuid : String} {server : JsonDict}
    (h : nodeToSubscribeDict rt fm node uuid = .ok server) :
    dictGet server "id" = .int node.id := by
  unfold nodeToSubscribeDict at h
  obtain ⟨ss_password, ss_plugin, tls_settings, network_settings, heq⟩ :=
    prepareSubscribeServer_ok h
  rw [heq, dictGet_dictUpdate_of_not_mem _ _ preparedFields_ne_id]
  unfold nodeColumns dictGet Json.lookup
  simp

/-! The entry of a node: its columns, as they are delivered, and what is added. -/

/-- The columns that are read in another form than they are stored in. -/
def normalized (rt : Runtime) (node : ServerV2Node) : JsonDict :=
  [("protocol", .str (if node.protocol = "" then "v2node" else node.protocol)),
    ("network", .str (if node.network = "" then "tcp" else node.network)),
    ("tls_settings", .obj (dictOrEmpty (settingsOf rt node.tls_settings))),
    ("network_settings", .obj (dictOrEmpty (settingsOf rt node.network_settings)))]

/-- The columns of a node as a client reads them. -/
def delivered (rt : Runtime) (node : ServerV2Node) : JsonDict :=
  dictUpdate (nodeColumns rt node) (normalized rt node)

theorem nodeColumns_keys (rt : Runtime) (node : ServerV2Node) : (nodeColumns rt node).map Prod.fst =
    ["id", "type", "protocol", "name", "host", "port", "server_port", "rate", "network",
      "network_settings", "tls", "tls_settings", "flow", "encryption", "encryption_settings",
      "cipher", "obfs", "obfs_password", "up_mbps", "down_mbps", "disable_sni", "udp_relay_mode",
      "zero_rtt_handshake", "congestion_control", "padding_scheme", "created_at", "updated_at",
      "cache_key"] := rfl

theorem delivered_keys (node : ServerV2Node) :
    (delivered rt node).map Prod.fst = (nodeColumns rt node).map Prod.fst := by
  refine keys_dictUpdate_of_known _ _ fun f hf => ?_
  have hknown : ∀ k ∈ ["protocol", "network", "tls_settings", "network_settings"],
      k ∈ (nodeColumns rt node).map Prod.fst := by
    rw [nodeColumns_keys]
    decide
  exact hknown f.1 (List.mem_map_of_mem (f := Prod.fst) hf)

/-- A column that is not normalized is delivered as it is stored. -/
theorem dictGet_delivered (node : ServerV2Node) {k : String}
    (h : k ∉ ["protocol", "network", "tls_settings", "network_settings"]) :
    dictGet (delivered rt node) k = dictGet (nodeColumns rt node) k := by
  refine dictGet_dictUpdate_of_not_mem _ _ fun f hf heq => h ?_
  rw [← heq]
  exact List.mem_map_of_mem (f := Prod.fst) hf

/-- Settings that are no dict are read as an empty one. -/
theorem dictOrEmpty_or_null (value : Json) : dictOrEmpty (value.or .null) = dictOrEmpty value := by
  unfold Json.or
  split
  · rfl
  next hfalse =>
  cases value with
  | obj fields =>
      have hnil : fields = [] := by simpa [Json.truthy] using hfalse
      rw [hnil]
      rfl
  | _ => rfl

theorem or_text (text default : String) :
    rt.str ((Json.str text).or (.str default)) = if text = "" then default else text := by
  unfold Json.or
  by_cases htext : text = ""
  · simp [Json.truthy, htext, Runtime.str]
  · simp [Json.truthy, htext, Runtime.str]

/-- The fields that the template adds to the columns. -/
def added (rt : Runtime) (fm : Formats) (node : ServerV2Node) (password plugin : String) :
    JsonDict :=
  (preparedFields rt fm (nodeColumns rt node) password plugin
    (dictOrEmpty (settingsOf rt node.tls_settings))
    (dictOrEmpty (settingsOf rt node.network_settings))).drop 4

theorem preparedFields_eq (node : ServerV2Node) (password plugin : String) :
    preparedFields rt fm (nodeColumns rt node) password plugin
        (dictOrEmpty (settingsOf rt node.tls_settings))
        (dictOrEmpty (settingsOf rt node.network_settings)) =
      normalized rt node ++ added rt fm node password plugin := by
  have hprotocol : dictGet (nodeColumns rt node) "protocol" = .str node.protocol := by
    simp [nodeColumns, dictGet, Json.lookup]
  have htype : (dictGet (nodeColumns rt node) "type").or (.str "") = .str "v2node" := by
    simp [nodeColumns, dictGet, Json.lookup, Json.or, Json.truthy]
  have hnetwork : dictGet (nodeColumns rt node) "network" = .str node.network := by
    simp [nodeColumns, dictGet, Json.lookup]
  have hfirst : (preparedFields rt fm (nodeColumns rt node) password plugin
      (dictOrEmpty (settingsOf rt node.tls_settings))
      (dictOrEmpty (settingsOf rt node.network_settings))).take 4 = normalized rt node := by
    unfold preparedFields normalized
    rw [hprotocol, htype, hnetwork, or_text, or_text]
    rfl
  rw [← hfirst]
  exact (List.take_append_drop 4 _).symm

theorem added_keys (node : ServerV2Node) (password plugin : String) :
    (added rt fm node password plugin).map Prod.fst =
      ["formatted_host", "first_port", "first_port_int", "allow_insecure", "allow_insecure_int",
        "sni", "ss_password", "ss_auth", "ss_plugin", "sip008", "vless_encryption",
        "multi_port"] := rfl

/-! A node has its settings under the names of the columns only. -/

theorem dictOrEmpty_tls_settings (node : ServerV2Node) :
    dictOrEmpty ((dictGet (nodeColumns rt node) "tls_settings").or
      (dictGet (nodeColumns rt node) "tlsSettings")) =
        dictOrEmpty (settingsOf rt node.tls_settings) := by
  simp [nodeColumns, dictGet, Json.lookup, dictOrEmpty_or_null]

theorem dictOrEmpty_network_settings (node : ServerV2Node) :
    dictOrEmpty ((dictGet (nodeColumns rt node) "network_settings").or
      (dictGet (nodeColumns rt node) "networkSettings")) =
        dictOrEmpty (settingsOf rt node.network_settings) := by
  simp [nodeColumns, dictGet, Json.lookup, dictOrEmpty_or_null]

/-- The entry of a node: its columns as they are delivered, then the fields that are added. -/
theorem nodeToSubscribeDict_ok {node : ServerV2Node} {uuid : String} {server : JsonDict}
    (h : nodeToSubscribeDict rt fm node uuid = .ok server) : ∃ password plugin,
      ssPassword rt fm uuid (nodeColumns rt node) = .ok password ∧
      ssPlugin rt (nodeColumns rt node) (dictOrEmpty (settingsOf rt node.network_settings)) =
        .ok plugin ∧
      server = delivered rt node ++ added rt fm node password plugin := by
  unfold nodeToSubscribeDict prepareSubscribeServer at h
  dsimp only at h
  rw [dictOrEmpty_tls_settings, dictOrEmpty_network_settings] at h
  obtain ⟨password, hpassword, h⟩ := except_bind_ok h
  obtain ⟨plugin, hplugin, h⟩ := except_bind_ok h
  refine ⟨password, plugin, hpassword, hplugin, ?_⟩
  rw [← Except.ok.inj h, preparedFields_eq, dictUpdate_append]
  refine dictUpdate_of_new _ _ ?_ ?_
  · rw [added_keys]
    decide
  · intro f hf
    have hnew : ∀ k ∈ (added rt fm node password plugin).map Prod.fst,
        k ∉ (nodeColumns rt node).map Prod.fst := by
      rw [added_keys, nodeColumns_keys]
      decide
    show f.1 ∉ (delivered rt node).map Prod.fst
    rw [delivered_keys]
    exact hnew f.1 (List.mem_map_of_mem (f := Prod.fst) hf)

/-- A column in the entry of a node. -/
theorem dictGet_entry {node : ServerV2Node} {uuid : String} {server : JsonDict}
    (h : nodeToSubscribeDict rt fm node uuid = .ok server) {k : String}
    (hk : k ∈ (nodeColumns rt node).map Prod.fst) :
    dictGet server k = dictGet (delivered rt node) k := by
  obtain ⟨password, plugin, -, -, rfl⟩ := nodeToSubscribeDict_ok h
  refine dictGet_append_of_not_mem _ ?_
  rw [added_keys]
  rw [nodeColumns_keys] at hk
  revert k
  decide

/-- A column that is delivered in another form. -/
theorem dictGet_entry_normalized {node : ServerV2Node} {uuid : String} {server : JsonDict}
    (h : nodeToSubscribeDict rt fm node uuid = .ok server) {k : String} {value : Json}
    (hmem : (k, value) ∈ normalized rt node) : dictGet server k = value := by
  have hkeys : (normalized rt node).map Prod.fst =
      ["protocol", "network", "tls_settings", "network_settings"] := rfl
  have hcolumns : ∀ k ∈ (normalized rt node).map Prod.fst,
      k ∈ (nodeColumns rt node).map Prod.fst := by
    rw [hkeys, nodeColumns_keys]
    decide
  have hk := hcolumns k (List.mem_map_of_mem (f := Prod.fst) hmem)
  rw [dictGet_entry h hk]
  refine dictGet_dictUpdate_of_mem _ ?_ hmem
  rw [hkeys]
  decide

/-! ## §2. The nodes of a user. -/

/-- The visible nodes of a group, in the order of the page. -/
def visibleNodes (rt : Runtime) (db : Database) (group_id : Option Int) : List ServerV2Node :=
  match group_id with
  | none => []
  | some g =>
      (((db .server_v2node).rows.filter fun n : ServerV2Node => n.show).mergeSort
        ServerV2NodeRepository.inOrder).filter fun n =>
          ServerV2NodeRepository.groupContains rt n.group_id g

theorem mem_visibleNodes {db : Database} {group_id : Option Int} {node : ServerV2Node}
    (h : node ∈ visibleNodes rt db group_id) :
    ∃ g, group_id = some g ∧ node ∈ (db .server_v2node).rows ∧
      ServerV2NodeRepository.groupContains rt node.group_id g = true := by
  cases group_id with
  | none => cases h
  | some g =>
      obtain ⟨hmem, hg⟩ := List.mem_filter.mp h
      exact ⟨g, rfl, List.mem_of_mem_filter (List.mem_mergeSort.mp hmem), hg⟩

theorem run_listVisibleByGroup (s : State Tbl) (ss : Session Tbl) (group_id : Option Int) :
    (ServerV2NodeRepository.listVisibleByGroup rt group_id).run s ss
      = (.ok (visibleNodes rt (s.view ss) group_id), ss) := by
  cases group_id <;> rfl

/-- What `get_available_servers` returns: the dicts of the visible nodes, perhaps with copies
    of the first one in front. -/
theorem run_getAvailableServers {s : State Tbl} {ss ss' : Session Tbl} {user : User}
    {servers : List JsonDict} (havail : isAvailable s.now user = true)
    (h : (getAvailableServers rt fm user).run s ss = (.ok servers, ss')) :
    ∃ prepared, (visibleNodes rt (s.view ss) user.group_id).mapM
        (fun node => nodeToSubscribeDict rt fm node user.uuid) = .ok prepared ∧
      (servers = prepared ∨ servers = prependSubscribeInfoServers fm prepared user) := by
  unfold getAvailableServers time at h
  simp only [Prog.bind_eq, Prog.run_clock_bind, havail, Bool.not_true, Bool.false_eq_true,
    if_false] at h
  rw [Prog.run_bind, run_listVisibleByGroup] at h
  dsimp only at h
  obtain ⟨prepared, hprep, h⟩ := run_liftExcept_bind h
  obtain ⟨info, ss₁, -, h⟩ := Prog.run_bind_ok h
  refine ⟨prepared, hprep, ?_⟩
  split at h
  · exact Or.inr (Except.ok.inj (Prod.mk.inj h).1).symm
  · exact Or.inl (Except.ok.inj (Prod.mk.inj h).1).symm

end PyBoard.SubscribeService
