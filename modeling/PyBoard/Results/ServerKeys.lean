/-
  PyBoard.Results.ServerKeys — the server key of a shadowsocks 2022 node.

  A subscription writes the password of every cipher of the 2022 family as a server
  key and a user key; the node is told its server key for the two AES ciphers only.
  So the two sides have one key for these two ciphers and for no other.

  Main results:
    * `dictGet_ss_password` — the password in the subscription of a 2022 node.
    * `run_getV2nodeConfig_server_key` — the key in the configuration of a node.
    * `server_keys_agree_iff`.
-/
import PyBoard.Specs.Subscribe
import PyBoard.Python.Utc

namespace PyBoard

open Relational

variable {rt : Runtime} {fm : Formats}

/-! ## §1. The subscription. -/

/-- The part of a shadowsocks password before its first separator. -/
def serverKeyPart (password : String) : String :=
  String.ofList (password.toList.takeWhile (· ≠ ':'))

theorem serverKeyPart_append {key : String} (user_key : String)
    (h : ∀ c ∈ key.toList, c ≠ ':') : serverKeyPart (key ++ ":" ++ user_key) = key := by
  have hkey : ∀ c ∈ key.toList, decide (c ≠ ':') = true := by
    intro c hc
    exact decide_eq_true (h c hc)
  unfold serverKeyPart
  rw [String.toList_append, String.toList_append, List.append_assoc,
    List.takeWhile_append_of_pos hkey]
  show String.ofList (key.toList ++ []) = key
  rw [List.append_nil, String.ofList_toList]

/-- The length of the keys of a cipher. -/
def keyLength (cipher : String) : Nat := if cipher = "2022-blake3-aes-128-gcm" then 16 else 32

namespace SubscribeService

theorem getServerKey_ne_colon (timestamp : Int) (length : Nat) :
    ∀ c ∈ (getServerKey fm timestamp length).toList, c ≠ ':' := by
  unfold getServerKey b64encode
  rw [String.toList_ofList]
  exact Base64.encode_ne_colon _

theorem not_isIn_empty : isIn "2022-blake3" "" = false := by decide

/-- The password of a 2022 cipher starts with the server key. -/
theorem ssPassword_nodeColumns {node : ServerV2Node} {uuid cipher password : String}
    (hcipher : node.cipher = some cipher) (h2022 : isIn "2022-blake3" cipher = true)
    (h : ssPassword rt fm uuid (nodeColumns rt node) = .ok password) :
    serverKeyPart password = getServerKey fm node.created_at (keyLength cipher) := by
  have hne : cipher ≠ "" := by
    intro hempty
    rw [hempty, not_isIn_empty] at h2022
    cases h2022
  have hget : dictGet (nodeColumns rt node) "cipher" = .str cipher := by
    simp [nodeColumns, dictGet, Json.lookup, hcipher, Json.ofOption]
  have hcreated : dictGet (nodeColumns rt node) "created_at" = .int node.created_at := by
    simp [nodeColumns, dictGet, Json.lookup]
  have hor : (Json.str cipher).or (.str "") = .str cipher := by
    simp [Json.or, Json.truthy, hne]
  have hint : CouponService.intOfItem rt ((Json.int node.created_at).or (.int 0))
      = .ok node.created_at := by
    unfold Json.or
    split
    · rfl
    · next hzero =>
      -- zero stands for itself
      simp only [Json.truthy, decide_eq_true_eq, not_not] at hzero
      rw [hzero]
      rfl
  unfold ssPassword at h
  dsimp only at h
  rw [hget, hor, hcreated, hint] at h
  simp only [Runtime.str, h2022, Bool.not_true, Bool.false_eq_true, if_false] at h
  have hpassword : password = getServerKey fm node.created_at (keyLength cipher) ++ ":" ++
      uuidToBase64 uuid (keyLength cipher) := (Except.ok.inj h).symm
  rw [hpassword]
  exact serverKeyPart_append _ (getServerKey_ne_colon _ _)

/-- No field is computed twice. -/
theorem preparedFields_nodup {server tls_settings network_settings : JsonDict}
    {ss_password ss_plugin : String} : ((preparedFields rt fm server ss_password ss_plugin
      tls_settings network_settings).map Prod.fst).Nodup := by
  simp [preparedFields]

/-- The password in the dict of a 2022 node. -/
theorem dictGet_ss_password {node : ServerV2Node} {uuid cipher : String} {server : JsonDict}
    (hcipher : node.cipher = some cipher) (h2022 : isIn "2022-blake3" cipher = true)
    (h : nodeToSubscribeDict rt fm node uuid = .ok server) :
    ∃ password, dictGet server "ss_password" = .str password ∧
      serverKeyPart password = getServerKey fm node.created_at (keyLength cipher) := by
  unfold nodeToSubscribeDict prepareSubscribeServer at h
  dsimp only at h
  obtain ⟨password, hpassword, h⟩ := except_bind_ok h
  obtain ⟨ss_plugin, -, h⟩ := except_bind_ok h
  have hserver := (Except.ok.inj h).symm
  refine ⟨password, ?_, ssPassword_nodeColumns hcipher h2022 hpassword⟩
  rw [hserver]
  refine dictGet_dictUpdate_of_mem _ preparedFields_nodup ?_
  simp [preparedFields]

end SubscribeService

/-! ## §2. The configuration of the node. -/

namespace ServerService

/-- What `withServerKey` leaves under the key. -/
theorem dictGet_withServerKey (node : ServerV2Node) :
    dictGet (withServerKey fm node (configColumns rt node)) "server_key" =
      if node.cipher = some "2022-blake3-aes-128-gcm" then
        .str (getServerKey fm node.created_at 16)
      else if node.cipher = some "2022-blake3-aes-256-gcm" then
        .str (getServerKey fm node.created_at 32)
      else .null := by
  unfold withServerKey
  split
  · exact dictGet_dictSet_same _ _ _
  · split
    · exact dictGet_dictSet_same _ _ _
    · simp [configColumns, dictGet, Json.lookup]

/-- The routes are stored under a key of their own. -/
theorem run_withRoutes {node : ServerV2Node} {response response' : JsonDict} {s : State Tbl}
    {ss ss' : Session Tbl} (h : (withRoutes rt node response).run s ss = (.ok response', ss')) :
    dictGet response' "server_key" = dictGet response "server_key" := by
  unfold withRoutes at h
  obtain ⟨route_ids, -, h⟩ := run_liftExcept_bind h
  split at h
  · rw [Except.ok.inj (Prod.mk.inj h).1]
  · obtain ⟨routes, ss₁, -, h⟩ := Prog.run_bind_ok h
    rw [← Except.ok.inj (Prod.mk.inj h).1]
    exact dictGet_dictSet_of_ne _ _ (by decide)

/-- The server key in what a stored node is told. -/
theorem run_getV2nodeConfig_server_key {node : ServerV2Node} {config : JsonDict} {s : State Tbl}
    {ss ss' : Session Tbl} (hnode : (s.view ss .server_v2node).get? node.id = some node)
    (h : (getV2nodeConfig rt fm node.id).run s ss = (.ok (some config), ss')) :
    dictGet config "server_key" =
      dictGet (withServerKey fm node (configColumns rt node)) "server_key" := by
  unfold getV2nodeConfig at h
  obtain ⟨found, ss₁, hfound, h⟩ := Prog.run_bind_ok h
  have hsome : some node = found := by
    rw [← hnode]
    exact Except.ok.inj (Prod.mk.inj hfound).1
  rw [← hsome] at h
  dsimp only at h
  obtain ⟨base_config, ss₂, -, h⟩ := Prog.run_bind_ok h
  obtain ⟨response, ss₃, hroutes, h⟩ := Prog.run_bind_ok h
  rw [← Option.some.inj (Except.ok.inj (Prod.mk.inj h).1), run_withRoutes hroutes,
    dictGet_dictSet_of_ne _ _ (by decide), dictGet_dictSet_of_ne _ _ (by decide)]

end ServerService

/-! ## §3. One key. -/

/-- **The two sides have one server key**: the one before the separator of the password in
    the user's subscription is the one that the node is told. -/
def ServerKeysAgree (config server : JsonDict) : Prop :=
  ∃ password, dictGet server "ss_password" = .str password ∧
    dictGet config "server_key" = .str (serverKeyPart password)

/-- **Which ciphers work**: a node of a 2022 cipher is told the key that its users are told
    exactly when the cipher is one of the two AES ciphers. -/
theorem server_keys_agree_iff {node : ServerV2Node} {uuid cipher : String}
    {config server : JsonDict} {s : State Tbl} {ss ss' : Session Tbl}
    (hnode : (s.view ss .server_v2node).get? node.id = some node)
    (hcipher : node.cipher = some cipher) (h2022 : isIn "2022-blake3" cipher = true)
    (hconfig : (ServerService.getV2nodeConfig rt fm node.id).run s ss = (.ok (some config), ss'))
    (hserver : SubscribeService.nodeToSubscribeDict rt fm node uuid = .ok server) :
    ServerKeysAgree config server ↔
      cipher = "2022-blake3-aes-128-gcm" ∨ cipher = "2022-blake3-aes-256-gcm" := by
  obtain ⟨password, hpassword, hpart⟩ :=
    SubscribeService.dictGet_ss_password hcipher h2022 hserver
  have hkey := (ServerService.run_getV2nodeConfig_server_key hnode hconfig).trans
    (ServerService.dictGet_withServerKey node)
  rw [hcipher] at hkey
  unfold ServerKeysAgree
  rw [hkey]
  constructor
  · -- another cipher leaves the key out
    intro ⟨password', _, hagree⟩
    by_cases h128 : cipher = "2022-blake3-aes-128-gcm"
    · exact Or.inl h128
    by_cases h256 : cipher = "2022-blake3-aes-256-gcm"
    · exact Or.inr h256
    rw [if_neg fun h => h128 (Option.some.inj h), if_neg fun h => h256 (Option.some.inj h)]
      at hagree
    cases hagree
  · intro h
    refine ⟨password, hpassword, ?_⟩
    rw [hpart]
    rcases h with rfl | rfl
    · rfl
    · rfl

/-! ## §4. Two nodes. -/

/-- A shadowsocks node of a cipher. -/
def shadowsocksNode (cipher : String) : ServerV2Node :=
  { id := 7, group_id := .arr [.int 1], name := "n", host := "h", port := "8388",
    server_port := 8388, rate := "1", «show» := true, protocol := "shadowsocks", tls := 0,
    network := "tcp", cipher := some cipher, created_at := 1700000000 }

/-- A digest of which every half is different. -/
def plainDigest : Formats :=
  { plainFormats with md5_hexdigest := fun text => text ++ "0123456789abcdef0123456789abcdef" }

def oneNode (cipher : String) : State Tbl :=
  ⟨Database.empty.apply [.put Tbl.server_v2node (shadowsocksNode cipher)], 1700000100⟩

def someUuid : String := "7f8e1c9a-4b7d-4f0e-9d53-2d3a8e1b5c60"

/-- The configuration that the node of a cipher fetches. -/
def fetchConfig (cipher : String) : Except PyExc (Option JsonDict) × Session Tbl :=
  (ServerService.getV2nodeConfig Utc.bare plainDigest 7).run (oneNode cipher) Session.fresh

/-- The entry of the node in a user's subscription. -/
def subscribed (cipher : String) : Except PyExc JsonDict :=
  SubscribeService.nodeToSubscribeDict Utc.bare plainDigest (shadowsocksNode cipher) someUuid

/-- The keys of `2022-blake3-aes-128-gcm` agree. -/
theorem server_keys_agree_aes128 : ∃ config server ss,
    fetchConfig "2022-blake3-aes-128-gcm" = (.ok (some config), ss) ∧
    subscribed "2022-blake3-aes-128-gcm" = .ok server ∧ ServerKeysAgree config server := by
  refine ⟨_, _, _, rfl, rfl, ?_⟩
  exact (@server_keys_agree_iff Utc.bare plainDigest (shadowsocksNode "2022-blake3-aes-128-gcm")
    someUuid _ _ _ (oneNode "2022-blake3-aes-128-gcm") Session.fresh _ rfl rfl (by decide) rfl
    rfl).mpr (Or.inl rfl)

/-- A node of `2022-blake3-chacha20-poly1305` is told no key, and its users are. -/
theorem chacha20_node_without_key : ∃ config server ss,
    fetchConfig "2022-blake3-chacha20-poly1305" = (.ok (some config), ss) ∧
    subscribed "2022-blake3-chacha20-poly1305" = .ok server ∧
    dictGet server "ss_password" =
      .str (SubscribeService.getServerKey plainDigest 1700000000 32 ++ ":" ++
        SubscribeService.uuidToBase64 someUuid 32) ∧
    dictGet config "server_key" = .null ∧ ¬ ServerKeysAgree config server := by
  refine ⟨_, _, _, rfl, rfl, rfl, rfl, ?_⟩
  intro ⟨password, _, hkey⟩
  cases hkey

end PyBoard
