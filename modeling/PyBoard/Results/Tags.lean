/-
  PyBoard.Results.Tags — what the tag of the node list stands for.

  The tag is made of the ids of the listed nodes and of the times of their last updates.
  The entries hold more: the columns of the nodes, a password made of the user's uuid, and
  the user's traffic and term where these are shown.

  Main results:
    * `nodeToSubscribeDict_eq_iff` — when two entries are the same.
    * `same_tag_same_servers_iff` — when one tag means one list.
-/
import PyBoard.Controllers.Tokens
import PyBoard.Results.ServerKeys
import PyBoard.Specs.Subscribe

namespace PyBoard

open Relational

variable {rt : Runtime} {fm : Formats}

namespace SubscribeService

/-! ## §1. What a client reads of a node. -/

/-- What a password takes of the user's uuid. -/
def uuidPart (node : ServerV2Node) (uuid : String) : String :=
  let cipher := node.cipher.getD ""
  if isIn "2022-blake3" cipher then uuidToBase64 uuid (keyLength cipher) else uuid

/-! Entries of one delivery. -/

section

variable {node node' : ServerV2Node}

/-- What the same delivery says about the columns that are read. -/
theorem dictGet_of_delivered (h : delivered rt node = delivered rt node') {k : String}
    (hk : k ∉ ["protocol", "network", "tls_settings", "network_settings"]) :
    dictGet (nodeColumns rt node) k = dictGet (nodeColumns rt node') k := by
  rw [← dictGet_delivered node hk, h, dictGet_delivered node' hk]

theorem normalized_of_delivered (h : delivered rt node = delivered rt node') :
    normalized rt node = normalized rt node' := by
  have hget : ∀ k value value', (k, value) ∈ normalized rt node →
      (k, value') ∈ normalized rt node' → value = value' := by
    intro k value value' hv hv'
    have hnodup : ∀ n : ServerV2Node, ((normalized rt n).map Prod.fst).Nodup := fun _ => by
      show ["protocol", "network", "tls_settings", "network_settings"].Nodup
      decide
    have hsame := congrArg (fun d => dictGet d k) h
    unfold delivered at hsame
    rwa [dictGet_dictUpdate_of_mem _ (hnodup node) hv,
      dictGet_dictUpdate_of_mem _ (hnodup node') hv'] at hsame
  have hprotocol := hget "protocol" _ _ (by simp [normalized]; rfl) (by simp [normalized]; rfl)
  have hnetwork := hget "network" _ _ (by simp [normalized]; rfl) (by simp [normalized]; rfl)
  have htls := hget "tls_settings" _ _ (by simp [normalized]; rfl) (by simp [normalized]; rfl)
  have hsettings :=
    hget "network_settings" _ _ (by simp [normalized]; rfl) (by simp [normalized]; rfl)
  unfold normalized
  rw [hprotocol, hnetwork, htls, hsettings]

/-- The parts of `normalized` that later fields are made of. -/
theorem normalized_eq_iff : normalized rt node = normalized rt node' ↔
    (if node.protocol = "" then "v2node" else node.protocol) =
      (if node'.protocol = "" then "v2node" else node'.protocol) ∧
    (if node.network = "" then "tcp" else node.network) =
      (if node'.network = "" then "tcp" else node'.network) ∧
    dictOrEmpty (settingsOf rt node.tls_settings) =
      dictOrEmpty (settingsOf rt node'.tls_settings) ∧
    dictOrEmpty (settingsOf rt node.network_settings) =
      dictOrEmpty (settingsOf rt node'.network_settings) := by
  simp [normalized]

theorem dictGet_protocol (node : ServerV2Node) :
    rt.str ((dictGet (nodeColumns rt node) "protocol").or
      ((dictGet (nodeColumns rt node) "type").or (.str ""))) =
        if node.protocol = "" then "v2node" else node.protocol := by
  have hprotocol : dictGet (nodeColumns rt node) "protocol" = .str node.protocol := by
    simp [nodeColumns, dictGet, Json.lookup]
  have htype : (dictGet (nodeColumns rt node) "type").or (.str "") = .str "v2node" := by
    simp [nodeColumns, dictGet, Json.lookup, Json.or, Json.truthy]
  rw [hprotocol, htype, or_text]

/-- The added fields are made of what is delivered, the password and the plugin. -/
theorem added_of_delivered (h : delivered rt node = delivered rt node')
    (password plugin : String) :
    added rt fm node password plugin = added rt fm node' password plugin := by
  obtain ⟨hprotocol, -, htls, hnetwork⟩ := normalized_eq_iff.mp (normalized_of_delivered h)
  have hread : ∀ k, k ∉ ["protocol", "network", "tls_settings", "network_settings"] →
      dictGet (nodeColumns rt node) k = dictGet (nodeColumns rt node') k :=
    fun k hk => dictGet_of_delivered h hk
  unfold added preparedFields allowInsecure vlessEncryption
  dsimp only [List.drop]
  rw [dictGet_protocol, dictGet_protocol, hprotocol, htls, hread "host" (by decide),
    hread "port" (by decide), hread "insecure" (by decide), hread "allow_insecure" (by decide),
    hread "server_name" (by decide), hread "cipher" (by decide), hread "encryption" (by decide),
    hread "encryption_settings" (by decide)]

/-- So is the plugin. -/
theorem ssPlugin_of_delivered (h : delivered rt node = delivered rt node') :
    ssPlugin rt (nodeColumns rt node) (dictOrEmpty (settingsOf rt node.network_settings)) =
      ssPlugin rt (nodeColumns rt node') (dictOrEmpty (settingsOf rt node'.network_settings)) := by
  obtain ⟨-, hnetwork, -, hsettings⟩ := normalized_eq_iff.mp (normalized_of_delivered h)
  have hread : ∀ k, k ∉ ["protocol", "network", "tls_settings", "network_settings"] →
      dictGet (nodeColumns rt node) k = dictGet (nodeColumns rt node') k :=
    fun k hk => dictGet_of_delivered h hk
  have hget : ∀ n : ServerV2Node, dictGet (nodeColumns rt n) "network" = .str n.network := by
    intro n
    simp [nodeColumns, dictGet, Json.lookup]
  -- the default makes no difference to the comparison with "http"
  have hdefault : ∀ text : String, (if text = "" then "" else text) = "http" ↔
      (if text = "" then "tcp" else text) = "http" := by
    intro text
    by_cases htext : text = ""
    · rw [if_pos htext, if_pos htext]
      decide
    · rw [if_neg htext, if_neg htext]
  unfold ssPlugin
  dsimp only
  rw [hread "obfs" (by decide), hread "obfs_host" (by decide), hread "obfs-host" (by decide),
    hread "obfs_path" (by decide), hread "obfs-path" (by decide), hsettings, hget, hget, or_text,
    or_text]
  simp only [hdefault, hnetwork]

/-- What stands before the user's part of a password. -/
def keyPart (fm : Formats) (node : ServerV2Node) : String :=
  let cipher := node.cipher.getD ""
  if isIn "2022-blake3" cipher then getServerKey fm node.created_at (keyLength cipher) ++ ":"
  else ""

/-- A password is the key of the node, if it has one, and the part of the user. -/
theorem ssPassword_eq (node : ServerV2Node) (uuid : String) :
    ssPassword rt fm uuid (nodeColumns rt node) = .ok (keyPart fm node ++ uuidPart node uuid) := by
  have hcipher : rt.str ((dictGet (nodeColumns rt node) "cipher").or (.str "")) =
      node.cipher.getD "" := by
    have hget : dictGet (nodeColumns rt node) "cipher" = .ofOption .str node.cipher := by
      simp [nodeColumns, dictGet, Json.lookup]
    rw [hget]
    cases node.cipher with
    | none => rfl
    | some cipher =>
        show rt.str ((Json.str cipher).or (.str "")) = cipher
        rw [or_text]
        split
        · next hempty => exact hempty.symm
        · rfl
  have hcreated : CouponService.intOfItem rt
      ((dictGet (nodeColumns rt node) "created_at").or (.int 0)) = .ok node.created_at := by
    have hget : dictGet (nodeColumns rt node) "created_at" = .int node.created_at := by
      simp [nodeColumns, dictGet, Json.lookup]
    rw [hget]
    unfold Json.or
    split
    · rfl
    · next hzero =>
      -- zero stands for itself
      simp only [Json.truthy, decide_eq_true_eq, not_not] at hzero
      rw [hzero]
      rfl
  unfold ssPassword keyPart uuidPart
  dsimp only
  rw [hcipher, hcreated]
  split
  · next hplain =>
    have hno : isIn "2022-blake3" (node.cipher.getD "") = false := by simpa using hplain
    rw [hno]
    simp
  · next h2022 =>
    have hyes : isIn "2022-blake3" (node.cipher.getD "") = true := by simpa using h2022
    rw [hyes, if_pos rfl, if_pos rfl]
    rfl

theorem keyPart_of_delivered (h : delivered rt node = delivered rt node') :
    keyPart fm node = keyPart fm node' := by
  have hcipher := dictGet_of_delivered h (k := "cipher") (by decide)
  have hcreated := dictGet_of_delivered h (k := "created_at") (by decide)
  have hget : ∀ n : ServerV2Node,
      dictGet (nodeColumns rt n) "cipher" = .ofOption .str n.cipher ∧
        dictGet (nodeColumns rt n) "created_at" = .int n.created_at := by
    intro n
    simp [nodeColumns, dictGet, Json.lookup]
  rw [(hget node).1, (hget node').1] at hcipher
  rw [(hget node).2, (hget node').2] at hcreated
  have hsame : node.cipher = node'.cipher := by
    cases hc : node.cipher <;> cases hc' : node'.cipher <;> rw [hc, hc'] at hcipher <;>
      simp_all [Json.ofOption]
  unfold keyPart
  rw [hsame, Json.int.inj hcreated]

/-- **When two entries are the same**: the columns are delivered alike, and so is what the
    password takes of the uuid. -/
theorem nodeToSubscribeDict_eq_iff {uuid uuid' : String} {server server' : JsonDict}
    (h : nodeToSubscribeDict rt fm node uuid = .ok server)
    (h' : nodeToSubscribeDict rt fm node' uuid' = .ok server') :
    server = server' ↔
      delivered rt node = delivered rt node' ∧ uuidPart node uuid = uuidPart node' uuid' := by
  obtain ⟨password, plugin, hpassword, hplugin, rfl⟩ := nodeToSubscribeDict_ok h
  obtain ⟨password', plugin', hpassword', hplugin', rfl⟩ := nodeToSubscribeDict_ok h'
  rw [ssPassword_eq] at hpassword hpassword'
  have hlength : (delivered rt node).length = (delivered rt node').length := by
    have hkeys : (delivered rt node).map Prod.fst = (delivered rt node').map Prod.fst := by
      rw [delivered_keys, delivered_keys, nodeColumns_keys, nodeColumns_keys]
    simpa using congrArg List.length hkeys
  constructor
  · intro heq
    obtain ⟨hsame, hadded⟩ := List.append_inj heq hlength
    have hboth : password = password' := by
      have hsixth := congrArg (fun d : JsonDict => (d.drop 6).head?) hadded
      injection hsixth with hpair
      exact Json.str.inj (congrArg Prod.snd hpair)
    refine ⟨hsame, ?_⟩
    rw [← Except.ok.inj hpassword, ← Except.ok.inj hpassword', keyPart_of_delivered hsame] at hboth
    exact (String.append_right_inj _).mp hboth
  · rintro ⟨hsame, hpart⟩
    have hboth : password = password' := by
      rw [← Except.ok.inj hpassword, ← Except.ok.inj hpassword', keyPart_of_delivered hsame, hpart]
    have hplugins : plugin = plugin' := by
      rw [ssPlugin_of_delivered hsame] at hplugin
      exact Except.ok.inj (hplugin.symm.trans hplugin')
    rw [hsame, hboth, hplugins, added_of_delivered hsame]

end

/-! ## §2. The keys of a list. -/

/-- What the tag is made of. -/
def cacheKeys (servers : List JsonDict) : List Json :=
  servers.map fun server => dictGet server "cache_key"

/-- What the tag knows of a node. -/
def stamp (node : ServerV2Node) : Int × Int := (node.id, node.updated_at)

/-- The `cache_key` of an id and a time. -/
def versionKey (stamp : Int × Int) : String :=
  "v2node:" ++ toString stamp.1 ++ ":" ++ toString stamp.2

theorem colon_not_mem_toString (i : Int) : ':' ∉ (toString i).toList := by
  have hnat : ∀ n : Nat, ':' ∉ n.repr.toList := by
    intro n hmem
    rw [Nat.toList_repr] at hmem
    have hdigit := Nat.isDigit_of_mem_toDigits (by decide) (by decide) hmem
    revert hdigit
    decide
  cases i with
  | ofNat n => exact hnat n
  | negSucc n =>
      show ':' ∉ ("-" ++ (n + 1).repr).toList
      rw [String.toList_append, List.mem_append]
      rintro (hminus | hrest)
      · revert hminus
        decide
      · exact hnat _ hrest

/-- A key belongs to one id and one time. -/
theorem versionKey_injective : Function.Injective versionKey := by
  intro a b h
  unfold versionKey at h
  have hlist : (toString a.1).toList ++ ':' :: (toString a.2).toList =
      (toString b.1).toList ++ ':' :: (toString b.2).toList := by
    have hchars := congrArg String.toList h
    simp only [String.toList_append, List.append_assoc] at hchars
    exact List.append_cancel_left hchars
  have hsplit : ∀ i j : Int, ((toString i).toList ++ ':' :: (toString j).toList).takeWhile
      (· ≠ ':') = (toString i).toList := by
    intro i j
    rw [List.takeWhile_append_of_pos]
    · simp
    · intro c hc
      exact decide_eq_true fun heq => colon_not_mem_toString i (heq ▸ hc)
  have hid : (toString a.1).toList = (toString b.1).toList := by
    rw [← hsplit a.1 a.2, hlist, hsplit]
  rw [hid] at hlist
  have htime := (List.cons.inj (List.append_cancel_left hlist)).2
  exact Prod.ext (toString_int_injective (String.toList_inj.mp hid))
    (toString_int_injective (String.toList_inj.mp htime))

theorem dictGet_cache_key {node : ServerV2Node} {uuid : String} {server : JsonDict}
    (h : nodeToSubscribeDict rt fm node uuid = .ok server) :
    dictGet server "cache_key" = .str (versionKey (stamp node)) := by
  unfold nodeToSubscribeDict at h
  obtain ⟨ss_password, ss_plugin, tls_settings, network_settings, heq⟩ :=
    prepareSubscribeServer_ok h
  rw [heq, dictGet_dictUpdate_of_not_mem]
  · simp [nodeColumns, dictGet, Json.lookup, versionKey, stamp]
  · intro f hf
    have hother : ∀ k ∈ (preparedFields rt fm (nodeColumns rt node) ss_password ss_plugin
        tls_settings network_settings).map Prod.fst, k ≠ "cache_key" := by
      show ∀ k ∈ ["protocol", "network", "tls_settings", "network_settings", "formatted_host",
        "first_port", "first_port_int", "allow_insecure", "allow_insecure_int", "sni",
        "ss_password", "ss_auth", "ss_plugin", "sip008", "vless_encryption", "multi_port"],
        k ≠ "cache_key"
      decide
    exact hother f.1 (List.mem_map_of_mem (f := Prod.fst) hf)

/-- Two mapped lists are the same exactly if their items are related one by one. -/
theorem mapM_eq_iff {ε α β : Type} {f g : α → Except ε β} {R : α → α → Prop}
    (hR : ∀ a a' b b', f a = .ok b → g a' = .ok b' → (b = b' ↔ R a a')) {l l' : List α}
    {m m' : List β} (h : l.mapM f = .ok m) (h' : l'.mapM g = .ok m') :
    m = m' ↔ List.Forall₂ R l l' := by
  have hall := forall₂_of_mapM_ok h
  have hall' := forall₂_of_mapM_ok h'
  clear h h'
  induction hall generalizing l' m' with
  | nil =>
      cases hall' with
      | nil => simp
      | cons _ _ => simp
  | cons ha _ ih =>
      cases hall' with
      | nil => simp
      | cons ha' hrest =>
          rw [List.cons.injEq, List.forall₂_cons]
          exact and_congr (hR _ _ _ _ ha ha') (ih hrest)

theorem cacheKeys_of_mapM {nodes : List ServerV2Node} {uuid : String} {servers : List JsonDict}
    (h : nodes.mapM (fun node => nodeToSubscribeDict rt fm node uuid) = .ok servers) :
    cacheKeys servers = 
      nodes.map fun node => .str (versionKey (stamp node)) := by
  have hall := forall₂_of_mapM_ok h
  clear h
  unfold cacheKeys
  induction hall with
  | nil => rfl
  | cons hnode _ ih => rw [List.map_cons, List.map_cons, ih, dictGet_cache_key hnode]

/-- The names of the two entries that are shown in front. -/
def infoNames (fm : Formats) (user : User) : String × String :=
  ("剩余流量：" ++ formatBytes fm (user.transfer_enable - user.u - user.d),
    "套餐到期：" ++ match user.expired_at with
      | none => "长期有效"
      | some e => fm.strftime "%Y-%m-%d" e)

theorem prependSubscribeInfoServers_cons (first : JsonDict) (rest : List JsonDict) (user : User) :
    prependSubscribeInfoServers fm (first :: rest) user =
      dictSet first "name" (.str (infoNames fm user).1) ::
        dictSet first "name" (.str (infoNames fm user).2) :: first :: rest := rfl

/-- The keys of a list with or without the two entries. -/
theorem cacheKeys_prepended (first : JsonDict) (rest : List JsonDict) (user : User) :
    cacheKeys (prependSubscribeInfoServers fm (first :: rest) user) =
      dictGet first "cache_key" :: dictGet first "cache_key" ::
        cacheKeys (first :: rest) := by
  rw [prependSubscribeInfoServers_cons]
  unfold cacheKeys
  rw [List.map_cons, List.map_cons, dictGet_dictSet_of_ne _ _ (by decide),
    dictGet_dictSet_of_ne _ _ (by decide)]

/-- Lists with the entries in front are the same if the entries and the lists are. -/
theorem prependSubscribeInfoServers_eq_iff {servers servers' : List JsonDict} {user user' : User}
    (hne : servers ≠ []) (hne' : servers' ≠ []) :
    prependSubscribeInfoServers fm servers user = prependSubscribeInfoServers fm servers' user' ↔
      servers = servers' ∧ infoNames fm user = infoNames fm user' := by
  obtain ⟨first, rest, rfl⟩ := List.exists_cons_of_ne_nil hne
  obtain ⟨first', rest', rfl⟩ := List.exists_cons_of_ne_nil hne'
  rw [prependSubscribeInfoServers_cons, prependSubscribeInfoServers_cons, List.cons.injEq,
    List.cons.injEq]
  constructor
  · rintro ⟨htraffic, hterm, hsame⟩
    obtain ⟨rfl, -⟩ := List.cons.inj hsame
    have hname : ∀ a b : String, dictSet first "name" (.str a) = dictSet first "name" (.str b) →
        a = b := by
      intro a b h
      have hget := congrArg (fun d => dictGet d "name") h
      simpa [dictGet_dictSet_same] using hget
    exact ⟨hsame, Prod.ext (hname _ _ htraffic) (hname _ _ hterm)⟩
  · rintro ⟨hsame, hinfo⟩
    obtain ⟨rfl, -⟩ := List.cons.inj hsame
    exact ⟨by rw [hinfo], by rw [hinfo], hsame⟩

/-- The nodes of a group have different ids. -/
theorem visibleNodes_nodup (db : Database) (group_id : Option Int) :
    ((visibleNodes rt db group_id).map ServerV2Node.id).Nodup := by
  unfold visibleNodes
  cases group_id with
  | none => exact List.nodup_nil
  | some g =>
      have hrows : ((db .server_v2node).rows.map ServerV2Node.id).Nodup :=
        (db .server_v2node).nodup
      refine List.Nodup.sublist (List.Sublist.map _ List.filter_sublist) ?_
      refine ((List.mergeSort_perm _ _).map ServerV2Node.id).nodup_iff.mpr ?_
      exact List.Nodup.sublist (List.Sublist.map _ List.filter_sublist) hrows

theorem versionKeys_nodup {nodes : List ServerV2Node} (h : (nodes.map ServerV2Node.id).Nodup) :
    (nodes.map fun node => Json.str (versionKey (stamp node))).Nodup := by
  refine List.pairwise_map.mpr ((List.pairwise_map.mp h).imp fun hne heq => hne ?_)
  exact congrArg Prod.fst (versionKey_injective (Json.str.inj heq))

theorem versionKeys_eq_iff {nodes nodes' : List ServerV2Node} :
    (nodes.map fun node => Json.str (versionKey (stamp node))) =
        (nodes'.map fun node => Json.str (versionKey (stamp node))) ↔
      nodes.map stamp = nodes'.map stamp := by
  have hinj : Function.Injective fun x : Int × Int => Json.str (versionKey x) :=
    fun _ _ h => versionKey_injective (Json.str.inj h)
  rw [← List.map_inj_right (fun _ _ h => hinj h), List.map_map, List.map_map]
  rfl

/-- **What one tag says**: both lists show the two entries or neither does, and the nodes have
    the same ids and times. -/
theorem versions_of_cacheKeys {nodes nodes' : List ServerV2Node} {uuid uuid' : String}
    {servers servers' : List JsonDict} {user user' : User} {info info' : Prop} [Decidable info]
    [Decidable info'] (hids : (nodes.map ServerV2Node.id).Nodup)
    (hids' : (nodes'.map ServerV2Node.id).Nodup) (hne : nodes ≠ []) (hne' : nodes' ≠ [])
    (h : nodes.mapM (fun node => nodeToSubscribeDict rt fm node uuid) = .ok servers)
    (h' : nodes'.mapM (fun node => nodeToSubscribeDict rt fm node uuid') = .ok servers') :
    cacheKeys
        (if info then prependSubscribeInfoServers fm servers user else servers) =
      cacheKeys
        (if info' then prependSubscribeInfoServers fm servers' user' else servers') ↔
    (info ↔ info') ∧ nodes.map stamp = nodes'.map stamp := by
  have hkeys := cacheKeys_of_mapM h
  have hkeys' := cacheKeys_of_mapM h'
  have hnodup := versionKeys_nodup hids
  have hnodup' := versionKeys_nodup hids'
  rw [← versionKeys_eq_iff, ← hkeys, ← hkeys']
  rw [← hkeys] at hnodup
  rw [← hkeys'] at hnodup'
  cases servers with
  | nil => exact absurd (List.map_eq_nil_iff.mp hkeys.symm) hne
  | cons first rest =>
  cases servers' with
  | nil => exact absurd (List.map_eq_nil_iff.mp hkeys'.symm) hne'
  | cons first' rest' =>
  have hfirst : ∀ (d : JsonDict) (l : List JsonDict), cacheKeys (d :: l) =
      dictGet d "cache_key" :: cacheKeys l := fun _ _ => rfl
  -- a key that stands twice is not in a list of different keys
  have htwice : ∀ (k : Json) (l : List Json), ¬(k :: k :: l).Nodup := by
    intro k l hk
    exact (List.nodup_cons.mp hk).1 List.mem_cons_self
  by_cases hinfo : info
  · by_cases hinfo' : info'
    · rw [if_pos hinfo, if_pos hinfo', cacheKeys_prepended, cacheKeys_prepended, List.cons.injEq,
        List.cons.injEq]
      constructor
      · intro heq
        exact ⟨iff_of_true hinfo hinfo', heq.2.2⟩
      · rintro ⟨-, heq⟩
        have hhead := heq
        rw [hfirst, hfirst, List.cons.injEq] at hhead
        exact ⟨hhead.1, hhead.1, heq⟩
    · rw [if_pos hinfo, if_neg hinfo', cacheKeys_prepended]
      refine iff_of_false (fun heq => ?_) fun h => hinfo' (h.1.mp hinfo)
      rw [← heq] at hnodup'
      exact htwice _ _ hnodup'
  · by_cases hinfo' : info'
    · rw [if_neg hinfo, if_pos hinfo', cacheKeys_prepended]
      refine iff_of_false (fun heq => ?_) fun h => hinfo (h.1.mpr hinfo')
      rw [heq] at hnodup
      exact htwice _ _ hnodup
    · rw [if_neg hinfo, if_neg hinfo']
      exact (and_iff_right (iff_of_false hinfo hinfo')).symm

end SubscribeService

/-! ## §3. Two moments. -/

section

open SubscribeService

/-- The list that `getUserServers` computes the tag of. -/
def userServers (rt : Runtime) (fm : Formats) (user_id : Int) : Db (List JsonDict) := do
  match ← UserRepository.getById user_id with
  | none => return []
  | some user => getAvailableServers rt fm user

/-- The tag of a list. -/
def etagOf (rt : Runtime) (fm : Formats) (servers : List JsonDict) : String :=
  fm.sha1_hexdigest (rt.orjson_dumps (.arr (cacheKeys servers)))

/-- The answer: the tag of the list, and the list unless the client has the tag. -/
theorem run_getUserServers {s : State Tbl} {ss ss' : Session Tbl} {user_id : Int}
    {if_none_match : String} {servers : List JsonDict}
    (h : (userServers rt fm user_id).run s ss = (.ok servers, ss')) :
    (getUserServers rt fm user_id if_none_match).run s ss =
      (.ok ⟨etagOf rt fm servers,
        if if_none_match = etagOf rt fm servers then none else some servers⟩, ss') := by
  unfold userServers UserRepository.getById at h
  unfold getUserServers UserRepository.getById
  rw [Prog.bind_eq, Prog.run_get_bind] at h ⊢
  cases hu : (s.view ss .users).get? user_id with
  | none =>
      rw [hu] at h
      cases h
      rfl
  | some user =>
      rw [hu] at h
      dsimp only at h ⊢
      rw [Prog.bind_eq, Prog.run_bind, h]
      rfl

/-- The nodes that are listed to a user. -/
def listedNodes (rt : Runtime) (s : State Tbl) (user_id : Int) : List ServerV2Node :=
  match (s.db .users).get? user_id with
  | none => []
  | some user =>
      if isAvailable s.now user then visibleNodes rt s.db (User.group_id user) else []

/-- The two entries with the user's traffic and term are shown. -/
def InfoShown (rt : Runtime) (s : State Tbl) : Prop :=
  ∃ info ss, (SettingService.Cached.getInt rt "show_info_to_server_enable" 0).run s Session.fresh =
    (.ok info, ss) ∧ info ≠ 0

/-- The list of a user: nothing, or the entries of the listed nodes, with or without the two
    entries in front. -/
theorem userServers_cases {s : State Tbl} {ss : Session Tbl} {user_id : Int}
    {servers : List JsonDict}
    (h : (userServers rt fm user_id).run s Session.fresh = (.ok servers, ss)) :
    (listedNodes rt s user_id = [] ∧ servers = []) ∨
    ∃ user prepared info, (s.db .users).get? user_id = some user ∧
      listedNodes rt s user_id = visibleNodes rt s.db (User.group_id user) ∧
      listedNodes rt s user_id ≠ [] ∧
      (listedNodes rt s user_id).mapM (fun node => nodeToSubscribeDict rt fm node user.uuid) =
        .ok prepared ∧
      (InfoShown rt s ↔ info ≠ (0 : Int)) ∧
      servers = if info ≠ 0 then prependSubscribeInfoServers fm prepared user else prepared := by
  unfold userServers UserRepository.getById at h
  rw [Prog.bind_eq, Prog.run_get_bind] at h
  have hview : (s.view Session.fresh .users).get? user_id = (s.db .users).get? user_id := rfl
  rw [hview] at h
  unfold listedNodes
  cases hu : (s.db .users).get? user_id with
  | none =>
      rw [hu] at h
      exact Or.inl ⟨rfl, (Except.ok.inj (Prod.mk.inj h).1).symm⟩
  | some user =>
      rw [hu] at h
      dsimp only at h ⊢
      unfold getAvailableServers time at h
      rw [Prog.bind_eq, Prog.run_clock_bind] at h
      by_cases havailable : isAvailable s.now user = true
      case neg =>
        rw [if_pos (by simp [havailable])] at h
        exact Or.inl ⟨if_neg havailable, (Except.ok.inj (Prod.mk.inj h).1).symm⟩
      rw [if_neg (by simp [havailable]), Prog.bind_eq, Prog.run_bind, run_listVisibleByGroup] at h
      dsimp only at h
      obtain ⟨prepared, hprepared, h⟩ := run_liftExcept_bind h
      obtain ⟨info, ss₁, hinfo, h⟩ := Prog.run_bind_ok h
      rw [if_pos havailable]
      by_cases hempty : visibleNodes rt s.db (User.group_id user) = []
      · -- nothing stands in front of nothing
        refine Or.inl ⟨hempty, ?_⟩
        have hnil : prepared = [] := by
          have hnone : visibleNodes rt (s.view Session.fresh) user.group_id = [] := hempty
          rw [hnone] at hprepared
          exact (Except.ok.inj hprepared).symm
        rw [hnil] at h
        split at h
        · exact (Except.ok.inj (Prod.mk.inj h).1).symm
        · exact (Except.ok.inj (Prod.mk.inj h).1).symm
      · refine Or.inr ⟨user, prepared, info, rfl, rfl, hempty, hprepared, ?_, ?_⟩
        · unfold InfoShown
          constructor
          · rintro ⟨info', ss', hrun, hne⟩
            rw [hinfo] at hrun
            cases hrun
            exact hne
          · exact fun hne => ⟨info, ss₁, hinfo, hne⟩
        · split at h
          · next hne =>
            rw [if_pos hne]
            exact (Except.ok.inj (Prod.mk.inj h).1).symm
          · next hzero =>
            rw [if_neg hzero]
            exact (Except.ok.inj (Prod.mk.inj h).1).symm

/-- The columns of two nodes are delivered alike, and so is what their passwords take of the
    uuid. -/
def SameEntry (rt : Runtime) (user user' : User) (node node' : ServerV2Node) : Prop :=
  delivered rt node = delivered rt node' ∧ uuidPart node user.uuid = uuidPart node' user'.uuid

theorem entries_eq_iff {user user' : User} {nodes nodes' : List ServerV2Node}
    {servers servers' : List JsonDict}
    (h : nodes.mapM (fun node => nodeToSubscribeDict rt fm node user.uuid) = .ok servers)
    (h' : nodes'.mapM (fun node => nodeToSubscribeDict rt fm node user'.uuid) = .ok servers') :
    servers = servers' ↔ List.Forall₂ (SameEntry rt user user') nodes nodes' := by
  refine mapM_eq_iff ?_ h h'
  intro node node' server server' hnode hnode'
  exact nodeToSubscribeDict_eq_iff hnode hnode'

/-- The nodes that keep their id and their time are delivered alike, the uuid gives the same
    part of their passwords, and the two entries in front, if they are shown, say the same. -/
def TagFaithful (rt : Runtime) (fm : Formats) (s s' : State Tbl) (user_id : Int) : Prop :=
  ∀ user user' : User, (s.db .users).get? user_id = some user →
    (s'.db .users).get? user_id = some user' →
    listedNodes rt s user_id ≠ [] →
    (listedNodes rt s user_id).map stamp = (listedNodes rt s' user_id).map stamp →
    (InfoShown rt s ↔ InfoShown rt s') →
    List.Forall₂ (SameEntry rt user user') (listedNodes rt s user_id)
      (listedNodes rt s' user_id) ∧
    (InfoShown rt s → infoNames fm user = infoNames fm user')

theorem TagFaithful.of_none {s s' : State Tbl} {user_id : Int}
    (h : listedNodes rt s user_id = []) : TagFaithful rt fm s s' user_id := by
  intro user user' _ _ hne
  exact absurd h hne

theorem TagFaithful.of_none' {s s' : State Tbl} {user_id : Int}
    (h : listedNodes rt s' user_id = []) : TagFaithful rt fm s s' user_id := by
  intro user user' _ _ hne hstamps
  rw [h] at hstamps
  exact absurd (List.map_eq_nil_iff.mp hstamps) hne

theorem cacheKeys_eq_nil {servers : List JsonDict} (h : cacheKeys servers = []) : servers = [] :=
  List.map_eq_nil_iff.mp h

/-- **When one tag means one list**, at any two moments: the two lists of one tag are the same
    exactly if what the tag does not cover has not changed. -/
theorem same_tag_same_servers_iff {s s' : State Tbl} {ss ss' : Session Tbl} {user_id : Int}
    {servers servers' : List JsonDict}
    (h : (userServers rt fm user_id).run s Session.fresh = (.ok servers, ss))
    (h' : (userServers rt fm user_id).run s' Session.fresh = (.ok servers', ss'))
    (hdigest : etagOf rt fm servers = etagOf rt fm servers' →
      cacheKeys servers = cacheKeys servers') :
    (etagOf rt fm servers = etagOf rt fm servers' → servers = servers') ↔
      TagFaithful rt fm s s' user_id := by
  have htag : etagOf rt fm servers = etagOf rt fm servers' ↔
      cacheKeys servers = cacheKeys servers' := by
    refine ⟨hdigest, fun heq => ?_⟩
    unfold etagOf
    rw [heq]
  rw [htag]
  rcases userServers_cases h with ⟨hnone, hservers⟩ |
    ⟨user, prepared, info, hu, hlisted, hne, hprep,
    hinfo, hservers⟩
  · -- no entry at the first moment
    refine iff_of_true (fun heq => ?_) (.of_none hnone)
    rw [hservers] at heq ⊢
    exact (cacheKeys_eq_nil heq.symm).symm
  rcases userServers_cases h' with ⟨hnone', hservers'⟩ | ⟨user', prepared', info', hu', hlisted',
    hne', hprep', hinfo', hservers'⟩
  · -- none at the second moment
    refine iff_of_true (fun heq => ?_) (.of_none' hnone')
    rw [hservers'] at heq ⊢
    exact cacheKeys_eq_nil heq
  have hids : ((listedNodes rt s user_id).map ServerV2Node.id).Nodup := by
    rw [hlisted]
    exact visibleNodes_nodup _ _
  have hids' : ((listedNodes rt s' user_id).map ServerV2Node.id).Nodup := by
    rw [hlisted']
    exact visibleNodes_nodup _ _
  have hkeys : cacheKeys servers = cacheKeys servers' ↔ (info ≠ 0 ↔ info' ≠ 0) ∧
      (listedNodes rt s user_id).map stamp = (listedNodes rt s' user_id).map stamp := by
    rw [hservers, hservers']
    exact versions_of_cacheKeys hids hids' hne hne' hprep hprep'
  have hentries : prepared = prepared' ↔ List.Forall₂ (SameEntry rt user user')
      (listedNodes rt s user_id) (listedNodes rt s' user_id) := entries_eq_iff hprep hprep'
  have hnonempty : ∀ {nodes : List ServerV2Node} {uuid : String} {l : List JsonDict}, nodes ≠ [] →
      nodes.mapM (fun node => nodeToSubscribeDict rt fm node uuid) = .ok l → l ≠ [] := by
    intro nodes uuid l hnodes hl hnil
    have hlength := (forall₂_of_mapM_ok hl).length_eq
    rw [hnil] at hlength
    exact hnodes (List.length_eq_zero_iff.mp hlength)
  have hlists : (info ≠ 0 ↔ info' ≠ 0) → (servers = servers' ↔ prepared = prepared' ∧
      (info ≠ 0 → infoNames fm user = infoNames fm user')) := by
    intro hboth
    rw [hservers, hservers']
    by_cases hshown : info ≠ 0
    · rw [if_pos hshown, if_pos (hboth.mp hshown),
        prependSubscribeInfoServers_eq_iff (hnonempty hne hprep) (hnonempty hne' hprep')]
      exact and_congr_right fun _ => ⟨fun heq _ => heq, fun heq => heq hshown⟩
    · rw [if_neg hshown, if_neg fun h => hshown (hboth.mpr h)]
      exact (and_iff_left fun h => absurd h hshown).symm
  rw [hkeys]
  constructor
  · intro hfaithful u u' hgu hgu' _ hstamps hshown
    rw [hu] at hgu
    rw [hu'] at hgu'
    cases hgu
    cases hgu'
    rw [hinfo, hinfo'] at hshown
    obtain ⟨hprepared, hnames⟩ := (hlists hshown).mp (hfaithful ⟨hshown, hstamps⟩)
    exact ⟨hentries.mp hprepared, fun hs => hnames (hinfo.mp hs)⟩
  · rintro hfaithful ⟨hshown, hstamps⟩
    rw [← hinfo, ← hinfo'] at hshown
    obtain ⟨hnodes, hnames⟩ := hfaithful user user' hu hu' hne hstamps hshown
    rw [hinfo, hinfo'] at hshown
    exact (hlists hshown).mpr ⟨hentries.mpr hnodes, fun hs => hnames (hinfo.mpr hs)⟩

/-! A user of one node. -/

/-- The digest of the one key that these lists have. -/
def tagFormats : Formats :=
  { plainFormats with sha1_hexdigest := fun _ => "4f11ed0109a32a17c8d591791188dcc74d74fc51" }

def nodeUser : User :=
  { id := 1, email := "a@example.com", password := "", token := "t", uuid := someUuid,
    transfer_enable := 1000, group_id := some 1, plan_id := some 1, expired_at := none }

/-- The user and the node, with so much of the traffic used. -/
def usedTraffic (d : Int) : State Tbl :=
  ⟨Database.empty.apply [.put Tbl.users { nodeUser with d := d },
    .put Tbl.server_v2node (shadowsocksNode "aes-128-gcm")], 1700000100⟩

def listed (s : State Tbl) : Except PyExc (List JsonDict) × Session Tbl :=
  (userServers Utc.bare tagFormats 1).run s Session.fresh

def entries (s : State Tbl) : List JsonDict := (listed s).1.toOption.getD []

theorem listed_eq {s : State Tbl} (h : (listed s).1 = .ok (entries s)) :
    listed s = (.ok (entries s), (listed s).2) := Prod.ext h rfl

/-- Traffic that is not shown leaves the tag faithful. -/
theorem same_tag_same_servers_traffic :
    TagFaithful Utc.bare tagFormats (usedTraffic 0) (usedTraffic 500) 1 := by
  have h : listed (usedTraffic 0) = _ := listed_eq (by decide +kernel)
  have h' : listed (usedTraffic 500) = _ := listed_eq (by decide +kernel)
  have hsame : entries (usedTraffic 0) = entries (usedTraffic 500) := by decide +kernel
  exact (@same_tag_same_servers_iff Utc.bare tagFormats _ _ _ _ 1 _ _ h h'
    fun _ => by rw [hsame]).mp fun _ => hsame

/-- The moment after the user has reset the identifiers. -/
def afterReset : State Tbl :=
  (usedTraffic 0).commit ((UserService.resetSecurity 1 "0c8f1d2e-5a6b-4c7d-8e9f-a0b1c2d3e4f5"
    "t2").run (usedTraffic 0) Session.fresh).2

/-- **A reset behind a 304**: the entry holds a new password, and the client that sends its tag
    is told that nothing has changed. -/
theorem reset_behind_same_tag :
    (listed (usedTraffic 0)).1 = .ok (entries (usedTraffic 0)) ∧
    (listed afterReset).1 = .ok (entries afterReset) ∧
    (entries (usedTraffic 0)).map (fun server => dictGet server "ss_password") =
      [.str someUuid] ∧
    (entries afterReset).map (fun server => dictGet server "ss_password") =
      [.str "0c8f1d2e-5a6b-4c7d-8e9f-a0b1c2d3e4f5"] ∧
    ((getUserServers Utc.bare tagFormats 1
      (etagOf Utc.bare tagFormats (entries (usedTraffic 0)))).run afterReset
        Session.fresh).1.map UserServers.data = .ok none := by
  decide +kernel

end

end PyBoard
