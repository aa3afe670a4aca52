/-
  PyBoard.Results.Documents — the structured subscriptions are well formed.

  A template puts texts of JSON values together.  The sing-box and the SIP008 document are
  read by the grammar of JSON, with the value that they stand for; the Clash document is
  read line by line.

  Main results:
    * `jsonText_singbox`, `jsonText_sip008` — the values of two documents.
    * `entries_clash` — the proxies and the group of the Clash document.
    * `structured_subscriptions_wellFormed`.
-/
import PyBoard.Python.Utc
import PyBoard.Specs.Templates

namespace PyBoard

open Relational SubscribeService Template

variable {rt : Runtime} {fm : Formats} {to_json : Json → Except PyExc String}

/-! ## §1. Servers. -/

/-- A server as a template is given it: the entry of a node, perhaps under another name. -/
def Served (rt : Runtime) (fm : Formats) (server : JsonDict) : Prop :=
  ∃ node uuid entry, nodeToSubscribeDict rt fm node uuid = .ok entry ∧
    (server = entry ∨ ∃ name : String, server = dictSet entry "name" (.str name))

/-- Another name leaves the other fields alone. -/
theorem dictGet_renamed (entry : JsonDict) (name : String) {k : String} (h : k ≠ "name") :
    dictGet (dictSet entry "name" (.str name)) k = dictGet entry k :=
  dictGet_dictSet_of_ne entry _ h

theorem Served.exists_id {server : JsonDict} (h : Served rt fm server) :
    ∃ id : Int, dictGet server "id" = .int id := by
  obtain ⟨node, uuid, entry, hentry, hserver⟩ := h
  have hid := nodeToSubscribeDict_id hentry
  rcases hserver with rfl | ⟨name, rfl⟩
  · exact ⟨node.id, hid⟩
  · exact ⟨node.id, (dictGet_renamed entry name (by decide)).trans hid⟩

theorem preparedFields_first_port_int (server : JsonDict) (ss_password ss_plugin : String)
    (tls_settings network_settings : JsonDict) : ∃ port : Int, ("first_port_int", .int port) ∈
      preparedFields rt fm server ss_password ss_plugin tls_settings network_settings := by
  refine ⟨(rt.int_of_str (firstPort (rt.str ((dictGet server "port").or (.str ""))))).getD 0, ?_⟩
  simp [preparedFields]

theorem Served.exists_first_port_int {server : JsonDict} (h : Served rt fm server) :
    ∃ port : Int, dictGet server "first_port_int" = .int port := by
  obtain ⟨node, uuid, entry, hentry, hserver⟩ := h
  unfold nodeToSubscribeDict at hentry
  obtain ⟨ss_password, ss_plugin, tls_settings, network_settings, heq⟩ :=
    prepareSubscribeServer_ok hentry
  obtain ⟨port, hmem⟩ := @preparedFields_first_port_int rt fm (nodeColumns rt node)
    ss_password ss_plugin tls_settings network_settings
  have hport : dictGet entry "first_port_int" = .int port := by
    rw [heq]
    refine dictGet_dictUpdate_of_mem _ ?_ hmem
    simp [preparedFields]
  rcases hserver with rfl | ⟨name, rfl⟩
  · exact ⟨port, hport⟩
  · exact ⟨port, (dictGet_renamed entry name (by decide)).trans hport⟩

/-- The servers that a subscription is rendered with. -/
theorem served_of_getAvailableServers {s : State Tbl} {ss ss' : Session Tbl} {user : User}
    {servers : List JsonDict} (havail : isAvailable s.now user = true)
    (h : (getAvailableServers rt fm user).run s ss = (.ok servers, ss')) :
    ∀ server ∈ servers, Served rt fm server := by
  obtain ⟨prepared, hprep, hservers⟩ := run_getAvailableServers havail h
  have hentry : ∀ entry ∈ prepared, ∃ node,
      nodeToSubscribeDict rt fm node user.uuid = .ok entry := by
    intro entry hmem
    obtain ⟨node, -, hnode⟩ := mem_of_mapM_ok hprep hmem
    exact ⟨node, hnode⟩
  intro server hmem
  rcases hservers with rfl | rfl
  · obtain ⟨node, hnode⟩ := hentry server hmem
    exact ⟨node, _, server, hnode, .inl rfl⟩
  · cases prepared with
    | nil => cases hmem
    | cons first rest =>
        obtain ⟨node, hnode⟩ := hentry first List.mem_cons_self
        rcases List.mem_append.mp hmem with hinfo | hmem
        · rw [List.mem_cons, List.mem_singleton] at hinfo
          rcases hinfo with rfl | rfl
          · exact ⟨node, _, first, hnode, .inr ⟨_, rfl⟩⟩
          · exact ⟨node, _, first, hnode, .inr ⟨_, rfl⟩⟩
        · obtain ⟨node, hnode⟩ := hentry server hmem
          exact ⟨node, _, server, hnode, .inl rfl⟩

/-! ## §2. Texts. -/

/-- The text of an object stands between braces. -/
theorem braces_of_obj {l : List Char} {fields : JsonDict} (h : ValueText l (.obj fields)) :
    ∃ inner, l = '\x7b' :: (inner ++ ['\x7d']) := by
  cases h with
  | emptyObj _ => exact ⟨_, rfl⟩
  | obj _ _ _ => exact ⟨_, rfl⟩

/-- The text of an object has nothing to trim. -/
theorem trim_of_obj {text : String} {fields : JsonDict}
    (h : ValueText text.toList (.obj fields)) : trim text = text := by
  obtain ⟨inner, heq⟩ := braces_of_obj h
  have hopen : isSpace '\x7b' = false := by decide
  have hclose : isSpace '\x7d' = false := by decide
  unfold trim
  rw [heq, List.dropWhile_cons, if_neg (by rw [hopen]; decide), ← List.cons_append,
    List.reverse_append, List.reverse_singleton, List.singleton_append, List.dropWhile_cons,
    if_neg (by rw [hclose]; decide), List.reverse_cons, List.reverse_reverse, List.cons_append,
    ← heq, String.ofList_toList]

/-- A member, with a space after the colon. -/
theorem memberText_quoted (key : String) {t : List Char} {v : Json} (h : ValueText t v) :
    MemberText (quoted key ++ ':' :: ' ' :: t) (key, v) := by
  have hkey := padded_quoted isBlank_nil key
  have hvalue := (jsonText_of_valueText h).lead (show IsBlank [' '] by decide)
  exact .mk hkey hvalue

/-- The texts of the names. -/
theorem forall₂_nameTexts (hjson : WritesJson to_json) {servers : List JsonDict}
    {names : List String} (h : nameTexts to_json servers = .ok names) :
    List.Forall₂ (Padded ValueText) (names.map String.toList)
      (servers.map fun server => dictGet server "name") := by
  rw [List.forall₂_map_left_iff, List.forall₂_map_right_iff]
  refine (forall₂_of_mapM_ok h).flip.imp ?_
  intro name server hname
  exact jsonText_of_valueText (hjson.value hname)

/-! ## §3. The sing-box document. -/

/-- TLS and the transport have a key each. -/
theorem singboxTls_frame {outbound outbound' server : JsonDict} {force : Bool}
    (h : singboxTls outbound server force = .ok outbound') {k : String} (hk : k ≠ "tls") :
    dictGet outbound' k = dictGet outbound k := by
  unfold singboxTls at h
  split at h
  · obtain ⟨tls, -, h⟩ := except_bind_ok h
    obtain ⟨fingerprint, -, h⟩ := except_bind_ok h
    rw [← Except.ok.inj h, dictUpdate_cons, dictUpdate_nil]
    exact dictGet_dictSet_of_ne _ _ hk
  · rw [← Except.ok.inj h]

theorem singboxTransport_frame {outbound outbound' server : JsonDict}
    (h : singboxTransport outbound server = .ok outbound') {k : String} (hk : k ≠ "transport") :
    dictGet outbound' k = dictGet outbound k := by
  have hset : ∀ transport : Json,
      dictGet (dictUpdate outbound [("transport", transport)]) k = dictGet outbound k :=
    fun _ => dictGet_dictSet_of_ne _ _ hk
  unfold singboxTransport at h
  split at h
  · obtain ⟨path, -, h⟩ := except_bind_ok h
    obtain ⟨host, -, h⟩ := except_bind_ok h
    rw [← Except.ok.inj h, hset]
  split at h
  · obtain ⟨service, -, h⟩ := except_bind_ok h
    rw [← Except.ok.inj h, hset]
  split at h
  · obtain ⟨path, -, h⟩ := except_bind_ok h
    obtain ⟨host, -, h⟩ := except_bind_ok h
    obtain ⟨mode, -, h⟩ := except_bind_ok h
    rw [← Except.ok.inj h, hset]
  · rw [← Except.ok.inj h]

/-- The tag of an outbound is the name of its server. -/
theorem singboxOutbound_tag {uuid : String} {server outbound : JsonDict} {old : Bool}
    (h : singboxOutbound uuid server old = .ok outbound) :
    dictGet outbound "tag" = dictGet server "name" := by
  have hbase : dictGet (if old then
      [("tag", dictGet server "name"), ("server", dictGet server "host"),
        ("server_port", dictGet server "first_port_int")]
      else dictUpdate [("tag", dictGet server "name"), ("server", dictGet server "host"),
        ("server_port", dictGet server "first_port_int")] [("domain_resolver", .str "local")])
      "tag" = dictGet server "name" := by
    split <;> simp [dictUpdate_cons, dictUpdate_nil, dictGet_dictSet, dictGet_cons]
  unfold singboxOutbound at h
  dsimp only at h
  generalize (if old then
      [("tag", dictGet server "name"), ("server", dictGet server "host"),
        ("server_port", dictGet server "first_port_int")]
      else dictUpdate [("tag", dictGet server "name"), ("server", dictGet server "host"),
        ("server_port", dictGet server "first_port_int")] [("domain_resolver", .str "local")])
      = base at h hbase
  -- one case for each protocol
  split at h
  · rw [← Except.ok.inj h]
    simp [dictUpdate_cons, dictUpdate_nil, dictGet_dictSet, hbase]
  split at h
  · obtain ⟨filled, htls, h⟩ := except_bind_ok h
    rw [singboxTransport_frame h (by decide), singboxTls_frame htls (by decide)]
    simp [dictUpdate_cons, dictUpdate_nil, dictGet_dictSet, hbase]
  split at h
  · obtain ⟨filled, htls, h⟩ := except_bind_ok h
    rw [singboxTransport_frame h (by decide), singboxTls_frame htls (by decide)]
    split <;> simp [dictUpdate_cons, dictUpdate_nil, dictGet_dictSet, hbase]
  split at h
  · obtain ⟨filled, htls, h⟩ := except_bind_ok h
    rw [singboxTransport_frame h (by decide), singboxTls_frame htls (by decide)]
    simp [dictUpdate_cons, dictUpdate_nil, dictGet_dictSet, hbase]
  split at h
  · rw [singboxTls_frame h (by decide)]
    split <;> split <;> simp [dictUpdate_cons, dictUpdate_nil, dictGet_dictSet, hbase]
  split at h
  · rw [singboxTls_frame h (by decide)]
    simp [dictUpdate_cons, dictUpdate_nil, dictGet_dictSet, hbase]
  split at h
  · rw [singboxTls_frame h (by decide)]
    simp [dictUpdate_cons, dictUpdate_nil, dictGet_dictSet, hbase]
  · rw [← Except.ok.inj h, hbase]

/-- The group in which the user chooses. -/
def selector (servers : List JsonDict) : Json :=
  .obj [("type", .str "selector"), ("tag", .str "proxy"),
    ("outbounds", .arr ((servers.map fun server => dictGet server "name") ++ [.str "direct"]))]

/-- The group that is tested. -/
def urltest (servers : List JsonDict) : Json :=
  .obj [("type", .str "urltest"), ("tag", .str "auto"),
    ("outbounds", .arr (servers.map fun server => dictGet server "name"))]

/-- The two fixed outbounds. -/
def fixedOutbounds : List Json :=
  [.obj [("type", .str "direct"), ("tag", .str "direct")],
    .obj [("type", .str "block"), ("tag", .str "block")]]

/-- All outbounds, in order. -/
def allOutbounds (servers outbounds : List JsonDict) : List Json :=
  [selector servers, urltest servers] ++ fixedOutbounds ++ outbounds.map Json.obj

def singboxDocument (servers outbounds : List JsonDict) : Json :=
  .obj [("log", .obj [("level", .str "warn"), ("timestamp", .bool true)]),
    ("outbounds", .arr (allOutbounds servers outbounds)),
    ("route", .obj [("final", .str "proxy")])]

/-- An object with a space after its commas and colons. -/
theorem valueText_spaced {texts : List (List Char)} {fields : JsonDict}
    (h : List.Forall₂ MemberText texts fields) (hsome : fields ≠ []) :
    ValueText ('\x7b' :: ([',', ' '].intercalate texts ++ ['\x7d'])) (.obj fields) :=
  .obj_intercalate (show IsBlank [' '] by decide) h isBlank_nil isBlank_nil hsome

/-- A group of the document, from the text of its list. -/
theorem valueText_group {kind tag : String} {t : List Char} {list : Json}
    (h : ValueText t list) :
    ValueText ('\x7b' :: ([',', ' '].intercalate
        [quoted "type" ++ ':' :: ' ' :: quoted kind, quoted "tag" ++ ':' :: ' ' :: quoted tag,
          quoted "outbounds" ++ ':' :: ' ' :: t] ++ ['\x7d']))
      (.obj [("type", .str kind), ("tag", .str tag), ("outbounds", list)]) := by
  have hkind := memberText_quoted "type" (ValueText.str (strText_quoted kind))
  have htag := memberText_quoted "tag" (ValueText.str (strText_quoted tag))
  have hlist := memberText_quoted "outbounds" h
  exact valueText_spaced (.cons hkind (.cons htag (.cons hlist .nil))) (List.cons_ne_nil _ _)

/-- Texts, each with a comma after it, and one more. -/
theorem toList_join_commas (names : List String) (last : String) :
    (String.join (names.map (· ++ ", ")) ++ last).toList =
      [',', ' '].intercalate (names.map String.toList ++ [last.toList]) := by
  induction names with
  | nil => simp
  | cons name names ih =>
      have hjoin : String.join ((name :: names).map (· ++ ", ")) ++ last =
          name ++ (", " ++ (String.join (names.map (· ++ ", ")) ++ last)) := by
        simp [String.join_cons, String.append_assoc]
      rw [hjoin, String.toList_append, String.toList_append, ih, List.map_cons, List.cons_append,
        List.intercalate_cons_of_ne_nil (by simp)]
      simp

theorem quoted_keys : quoted "type" = "\"type\"".toList ∧ quoted "tag" = "\"tag\"".toList ∧
    quoted "outbounds" = "\"outbounds\"".toList ∧ quoted "direct" = "\"direct\"".toList ∧
    quoted "selector" = "\"selector\"".toList ∧ quoted "proxy" = "\"proxy\"".toList ∧
    quoted "urltest" = "\"urltest\"".toList ∧ quoted "auto" = "\"auto\"".toList ∧
    quoted "log" = "\"log\"".toList ∧ quoted "route" = "\"route\"".toList := by
  decide

theorem valueText_selector (hjson : WritesJson to_json) {servers : List JsonDict}
    {names : List String} (h : nameTexts to_json servers = .ok names) :
    ValueText ("\x7b\"type\": \"selector\", \"tag\": \"proxy\", \"outbounds\": [" ++
      (String.join (names.map (· ++ ", ")) ++ "\"direct\"") ++ "]\x7d").toList
      (selector servers) := by
  have hdirect : Padded ValueText "\"direct\"".toList (.str "direct") := by
    rw [← quoted_keys.2.2.2.1]
    exact jsonText_of_valueText (.str (strText_quoted "direct"))
  have hitems := List.rel_append (forall₂_nameTexts hjson h) (.cons hdirect .nil)
  have hlist := ValueText.arr_intercalate (show IsBlank [' '] by decide) hitems isBlank_nil
    isBlank_nil (by simp)
  rw [List.nil_append, List.nil_append, ← toList_join_commas] at hlist
  have hgroup := @valueText_group "selector" "proxy" _ _ hlist
  obtain ⟨htype, htag, houtbounds, -, hselector, hproxy, -⟩ := quoted_keys
  rw [htype, htag, houtbounds, hselector, hproxy] at hgroup
  unfold selector
  convert hgroup using 1
  simp [List.intercalate_cons_cons]

theorem valueText_urltest (hjson : WritesJson to_json) {servers : List JsonDict}
    {names : List String} (h : nameTexts to_json servers = .ok names) :
    ValueText ("\x7b\"type\": \"urltest\", \"tag\": \"auto\", \"outbounds\": [" ++
      ", ".intercalate names ++ "]\x7d").toList (urltest servers) := by
  have hitems := forall₂_nameTexts hjson h
  have hlist : ValueText ("[" ++ ", ".intercalate names ++ "]").toList
      (.arr (servers.map fun server => dictGet server "name")) := by
    by_cases hservers : servers = []
    · rw [hservers] at hitems ⊢
      cases names with
      | nil => exact .emptyArr isBlank_nil
      | cons _ _ => cases hitems
    · have hlist := ValueText.arr_intercalate (show IsBlank [' '] by decide) hitems isBlank_nil
        isBlank_nil (by simpa using hservers)
      convert hlist using 1
      simp [String.toList_intercalate]
  have hgroup := @valueText_group "urltest" "auto" _ _ hlist
  obtain ⟨htype, htag, houtbounds, -, -, -, hurltest, hauto, -⟩ := quoted_keys
  rw [htype, htag, houtbounds, hurltest, hauto] at hgroup
  unfold urltest
  convert hgroup using 1
  simp [List.intercalate_cons_cons]

/-- The outbounds of the servers, and the texts that are written for them. -/
theorem exists_outbounds (hjson : WritesJson to_json) {user : User} {old : Bool}
    {servers : List JsonDict} {text : String}
    (h : singboxOutbounds to_json user servers old = .ok text) :
    ∃ outbounds lines, text = ",".intercalate lines ∧
      List.Forall₂ (fun server outbound => singboxOutbound user.uuid server old = .ok outbound)
        servers outbounds ∧
      List.Forall₂ (Padded ValueText) (lines.map String.toList) (outbounds.map Json.obj) := by
  unfold singboxOutbounds at h
  obtain ⟨lines, hlines, htext⟩ := except_bind_ok h
  have hall := forall₂_of_mapM_ok hlines
  have hexists : ∃ outbounds,
      List.Forall₂ (fun server outbound => singboxOutbound user.uuid server old = .ok outbound)
        servers outbounds ∧
      List.Forall₂ (Padded ValueText) (lines.map String.toList) (outbounds.map Json.obj) := by
    clear h hlines htext
    induction hall with
    | nil => exact ⟨[], .nil, .nil⟩
    | cons hfirst _ ih =>
        obtain ⟨outbounds, houtbounds, htexts⟩ := ih
        obtain ⟨outbound, houtbound, hfirst⟩ := except_bind_ok hfirst
        obtain ⟨text, htext, hfirst⟩ := except_bind_ok hfirst
        have hvalue := hjson.value htext
        refine ⟨outbound :: outbounds, .cons houtbound houtbounds, ?_⟩
        rw [List.map_cons, List.map_cons, ← Except.ok.inj hfirst, trim_of_obj hvalue,
          String.toList_append]
        exact .cons ((jsonText_of_valueText hvalue).lead (by decide)) htexts
  obtain ⟨outbounds, houtbounds, htexts⟩ := hexists
  exact ⟨outbounds, lines, (Except.ok.inj htext).symm, houtbounds, htexts⟩

theorem intercalate_append {sep : List Char} {first : List Char} (rest more : List (List Char)) :
    sep.intercalate (first :: rest ++ more) =
      sep.intercalate (first :: rest) ++
        (if more = [] then [] else sep ++ sep.intercalate more) := by
  induction rest generalizing first with
  | nil =>
      cases more with
      | nil => simp
      | cons next more =>
          rw [List.cons_append, List.nil_append, List.intercalate_cons_cons]
          simp
  | cons second rest ih =>
      rw [List.cons_append, List.cons_append, List.intercalate_cons_cons, ← List.cons_append, ih,
        List.intercalate_cons_cons]
      simp

/-! The parts that are the same in every document. -/

theorem valueText_direct : ValueText "\x7b\"type\": \"direct\", \"tag\": \"direct\"\x7d".toList
    (.obj [("type", .str "direct"), ("tag", .str "direct")]) :=
  valueText_dumps (show IsBlank [' '] by decide) _ (by decide)

theorem valueText_block : ValueText "\x7b\"type\": \"block\", \"tag\": \"block\"\x7d".toList
    (.obj [("type", .str "block"), ("tag", .str "block")]) :=
  valueText_dumps (show IsBlank [' '] by decide) _ (by decide)

theorem valueText_log : ValueText "\x7b\"level\": \"warn\", \"timestamp\": true\x7d".toList
    (.obj [("level", .str "warn"), ("timestamp", .bool true)]) :=
  valueText_dumps (show IsBlank [' '] by decide) _ (by decide)

theorem valueText_route : ValueText "\x7b\"final\": \"proxy\"\x7d".toList
    (.obj [("final", .str "proxy")]) :=
  valueText_dumps (show IsBlank [' '] by decide) _ (by decide)

set_option maxRecDepth 4000 in
/-- The sing-box document stands for its value. -/
theorem jsonText_singbox (hjson : WritesJson to_json) {user : User} {servers : List JsonDict}
    {old : Bool} {doc : String} (h : singbox to_json user servers old = .ok doc) :
    ∃ outbounds, JsonText doc.toList (singboxDocument servers outbounds) ∧
      List.Forall₂ (fun server outbound => singboxOutbound user.uuid server old = .ok outbound)
        servers outbounds := by
  unfold singbox at h
  obtain ⟨names, hnames, h⟩ := except_bind_ok h
  obtain ⟨text, htext, h⟩ := except_bind_ok h
  obtain ⟨outbounds, lines, rfl, houtbounds, hlines⟩ := exists_outbounds hjson htext
  refine ⟨outbounds, ?_, houtbounds⟩
  have hselector := (jsonText_of_valueText (valueText_selector hjson hnames)).lead
    (show IsBlank "\n    ".toList by decide)
  have hurltest := (jsonText_of_valueText (valueText_urltest hjson hnames)).lead
    (show IsBlank "\n    ".toList by decide)
  have hdirect := (jsonText_of_valueText valueText_direct).lead
    (show IsBlank "\n    ".toList by decide)
  have hblock := (jsonText_of_valueText valueText_block).lead
    (show IsBlank "\n    ".toList by decide)
  have hitems := List.rel_append (.cons hselector (.cons hurltest (.cons hdirect
    (.cons hblock .nil)))) hlines
  have hlist := ValueText.arr_intercalate isBlank_nil hitems isBlank_nil
    (show IsBlank [' ', ' '] by decide) (by simp)
  have hlog := memberText_quoted "log" valueText_log
  have hroute := memberText_quoted "route" valueText_route
  have hdoc := ValueText.obj_intercalate (show IsBlank "\n  ".toList by decide)
    (.cons hlog (.cons (memberText_quoted "outbounds" hlist) (.cons hroute .nil)))
    (show IsBlank "\n  ".toList by decide) (show IsBlank ['\n'] by decide) (by simp)
  rw [← Except.ok.inj h]
  -- the comma after the fixed outbounds is there exactly when a server follows
  have hcomma : (if servers = [] then "" else ",").toList ++ (",".intercalate lines).toList =
      if lines.map String.toList = [] then []
      else [','] ++ [','].intercalate (lines.map String.toList) := by
    have hlength := houtbounds.length_eq.trans (by simpa using hlines.length_eq.symm)
    cases lines with
    | nil =>
        rw [if_pos (List.length_eq_zero_iff.mp hlength)]
        simp
    | cons line lines =>
        rw [if_neg (by rintro rfl; cases hlength)]
        simp [String.toList_intercalate]
  obtain ⟨-, -, hkey, -, -, -, -, -, hlog, hroute⟩ := quoted_keys
  convert jsonText_of_valueText hdoc using 1
  · dsimp only
    rw [hkey, hlog, hroute, intercalate_append, ← hcomma]
    simp [List.intercalate_cons_cons]
  · rfl

/-- The tags that a group lists. -/
def listedTags (group : Json) : List Json :=
  match member group "outbounds" with
  | .arr tags => tags
  | _ => []

/-- Every tag that a group lists is that of an outbound. -/
theorem exists_outbound_of_listed {user : User} {servers outbounds : List JsonDict} {old : Bool}
    (h : List.Forall₂ (fun server outbound => singboxOutbound user.uuid server old = .ok outbound)
      servers outbounds) {group : Json}
    (hgroup : group = selector servers ∨ group = urltest servers)
    {tag : Json} (htag : tag ∈ listedTags group) :
    ∃ outbound ∈ allOutbounds servers outbounds, member outbound "tag" = tag := by
  have hservers : ∀ server ∈ servers, ∃ outbound ∈ allOutbounds servers outbounds,
      member outbound "tag" = dictGet server "name" := by
    intro server hmem
    have hfound : ∃ outbound ∈ outbounds,
        singboxOutbound user.uuid server old = .ok outbound := by
      clear hgroup htag
      induction h with
      | nil => cases hmem
      | cons hfirst _ ih =>
          rcases List.mem_cons.mp hmem with rfl | hmem
          · exact ⟨_, List.mem_cons_self, hfirst⟩
          · obtain ⟨outbound, ho, heq⟩ := ih hmem
            exact ⟨outbound, List.mem_cons_of_mem _ ho, heq⟩
    obtain ⟨outbound, ho, heq⟩ := hfound
    exact ⟨.obj outbound, List.mem_append_right _ (List.mem_map_of_mem ho),
      singboxOutbound_tag heq⟩
  have hlisted : tag ∈ (servers.map fun server => dictGet server "name") ∨
      tag = .str "direct" := by
    rcases hgroup with rfl | rfl
    · have hmem : tag ∈ (servers.map fun server => dictGet server "name") ++
          [.str "direct"] := by
        simpa [listedTags, member, selector, dictGet_cons, dictGet_nil] using htag
      simpa using hmem
    · exact .inl (by simpa [listedTags, member, urltest, dictGet_cons, dictGet_nil] using htag)
  rcases hlisted with hname | rfl
  · obtain ⟨server, hmem, rfl⟩ := List.mem_map.mp hname
    exact hservers server hmem
  · refine ⟨.obj [("type", .str "direct"), ("tag", .str "direct")], ?_, ?_⟩
    · simp [allOutbounds, fixedOutbounds]
    · simp [member, dictGet_cons]

/-! ## §4. The SIP008 document. -/

def sip008Entry (user : User) (server : JsonDict) : Json :=
  .obj [("id", dictGet server "id"), ("remarks", dictGet server "name"),
    ("server", dictGet server "host"), ("server_port", dictGet server "first_port_int"),
    ("password", .str user.uuid), ("method", dictGet server "cipher")]

def sip008Document (user : User) (servers : List JsonDict) : Json :=
  .obj [("version", .int 1), ("bytes_used", .int (user.u + user.d)),
    ("bytes_remaining", .int (max (user.transfer_enable - user.u - user.d) 0)),
    ("servers", .arr ((sip008Servers servers).map (sip008Entry user)))]

theorem quoted_sip008 : quoted "id" = "\"id\"".toList ∧ quoted "remarks" = "\"remarks\"".toList ∧
    quoted "server" = "\"server\"".toList ∧ quoted "server_port" = "\"server_port\"".toList ∧
    quoted "password" = "\"password\"".toList ∧ quoted "method" = "\"method\"".toList ∧
    quoted "version" = "\"version\"".toList ∧ quoted "bytes_used" = "\"bytes_used\"".toList ∧
    quoted "bytes_remaining" = "\"bytes_remaining\"".toList ∧
    quoted "servers" = "\"servers\"".toList := by
  decide

/-- The text of one server. -/
theorem padded_sip008Server (hjson : WritesJson to_json) {user : User} {server : JsonDict}
    (hserved : Served rt fm server) {text : String}
    (h : sip008Server rt to_json user server = .ok text) :
    Padded ValueText text.toList (sip008Entry user server) := by
  obtain ⟨id, hid⟩ := hserved.exists_id
  obtain ⟨port, hport⟩ := hserved.exists_first_port_int
  unfold sip008Server at h
  obtain ⟨remarks, hremarks, h⟩ := except_bind_ok h
  obtain ⟨host, hhost, h⟩ := except_bind_ok h
  obtain ⟨password, hpassword, h⟩ := except_bind_ok h
  obtain ⟨method, hmethod, h⟩ := except_bind_ok h
  rw [hid, hport] at h
  have hobj := ValueText.obj_intercalate (show IsBlank "\n      ".toList by decide)
    (.cons (memberText_quoted "id" (valueText_int id))
      (.cons (memberText_quoted "remarks" (hjson.value hremarks))
        (.cons (memberText_quoted "server" (hjson.value hhost))
          (.cons (memberText_quoted "server_port" (valueText_int port))
            (.cons (memberText_quoted "password" (hjson.value hpassword))
              (.cons (memberText_quoted "method" (hjson.value hmethod)) .nil))))))
    (show IsBlank "\n      ".toList by decide) (show IsBlank "\n    ".toList by decide) (by simp)
  have hpad := Padded.mk (show IsBlank "    ".toList by decide) hobj
    (show IsBlank ['\n'] by decide)
  rw [← Except.ok.inj h]
  obtain ⟨hid', hremarks', hserver', hport', hpassword', hmethod', -⟩ := quoted_sip008
  unfold sip008Entry
  rw [hid, hport]
  convert hpad using 1
  rw [hid', hremarks', hserver', hport', hpassword', hmethod']
  simp [List.intercalate_cons_cons, Runtime.str]

/-- The list of the servers. -/
theorem valueText_sip008Servers (hjson : WritesJson to_json) {user : User}
    {servers : List JsonDict} (hserved : ∀ server ∈ servers, Served rt fm server)
    {texts : List String} (h : servers.mapM (sip008Server rt to_json user) = .ok texts) :
    ValueText ("[\n" ++ ",".intercalate texts ++ "  ]").toList
      (.arr (servers.map (sip008Entry user))) := by
  have hall := forall₂_of_mapM_ok h
  have hitems : List.Forall₂ (Padded ValueText) (texts.map String.toList)
      (servers.map (sip008Entry user)) := by
    clear h
    induction hall with
    | nil => exact .nil
    | cons hfirst _ ih =>
        obtain ⟨hserver, hrest⟩ := List.forall_mem_cons.mp hserved
        exact .cons (padded_sip008Server hjson hserver hfirst) (ih hrest)
  by_cases hnone : servers = []
  · rw [hnone] at hall ⊢
    cases hall
    exact .emptyArr (show IsBlank "\n  ".toList by decide)
  · have hlist := ValueText.arr_intercalate isBlank_nil hitems (show IsBlank ['\n'] by decide)
      (show IsBlank [' ', ' '] by decide) (by simpa using hnone)
    convert hlist using 1
    simp [String.toList_intercalate]

/-- The SIP008 document stands for its value. -/
theorem jsonText_sip008 (hjson : WritesJson to_json) {user : User} {servers : List JsonDict}
    (hserved : ∀ server ∈ servers, Served rt fm server) {doc : String}
    (h : sip008 rt to_json user servers = .ok doc) :
    JsonText doc.toList (sip008Document user servers) := by
  unfold sip008 at h
  obtain ⟨texts, htexts, h⟩ := except_bind_ok h
  have hlist := valueText_sip008Servers hjson
    (fun server hmem => hserved server (List.mem_of_mem_filter hmem)) htexts
  have hversion : ValueText ['1'] (.int 1) := valueText_int 1
  have hdoc := ValueText.obj_intercalate (show IsBlank "\n  ".toList by decide)
    (.cons (memberText_quoted "version" hversion)
      (.cons (memberText_quoted "bytes_used" (valueText_int (user.u + user.d)))
        (.cons (memberText_quoted "bytes_remaining"
            (valueText_int (max (user.transfer_enable - user.u - user.d) 0)))
          (.cons (memberText_quoted "servers" hlist) .nil))))
    (show IsBlank "\n  ".toList by decide) (show IsBlank ['\n'] by decide) (by simp)
  obtain ⟨-, -, -, -, -, -, hversion, hused, hremaining, hservers⟩ := quoted_sip008
  rw [← Except.ok.inj h]
  convert jsonText_of_valueText hdoc using 1
  · rw [hversion, hused, hremaining, hservers]
    simp [List.intercalate_cons_cons]
  · rfl

/-! ## §5. The Clash document. -/

/-- The entries under a key: the lines after it as long as they have the dash, without it. -/
def entriesUnder (key dash doc : String) : List String :=
  let lines := doc.toList.splitOn '\n'
  let entries := ((lines.dropWhile (· ≠ key.toList)).drop 1).takeWhile
    (dash.toList.isPrefixOf ·)
  entries.map fun line => String.ofList (line.drop dash.toList.length)

/-- The entries of the group. -/
def groupEntries (doc : String) : List String := entriesUnder "    proxies:" "      - " doc

/-- The proxies. -/
def proxyEntries (doc : String) : List String := entriesUnder "proxies:" "  - " doc

/-- The servers that have a proxy. -/
def hasProxy (uuid : String) (server : JsonDict) : Bool :=
  match clashProxy uuid server with
  | .ok (some _) => true
  | _ => false

/-- The text of a proxy, on one line. -/
structure ProxyText (to_json : Json → Except PyExc String) (uuid text : String)
    (server : JsonDict) : Prop where
  value : ∃ proxy, clashProxy uuid server = .ok (some proxy) ∧ ValueText text.toList (.obj proxy)
  one_line : '\n' ∉ text.toList

/-- A server without a proxy has no text. -/
theorem clashProxyText_cases (hjson : WritesJson to_json) {user : User} {server : JsonDict}
    {text : String} (h : clashProxyText to_json user server = .ok text) :
    (text = "" ∧ hasProxy user.uuid server = false) ∨
      text ≠ "" ∧ hasProxy user.uuid server = true ∧ ProxyText to_json user.uuid text server := by
  unfold clashProxyText at h
  obtain ⟨found, hfound, h⟩ := except_bind_ok h
  unfold hasProxy
  rw [hfound]
  cases found with
  | none => exact Or.inl ⟨(Except.ok.inj h).symm, rfl⟩
  | some proxy =>
      obtain ⟨t, ht, h⟩ := except_bind_ok h
      have hvalue := hjson.value ht
      have htext : text = t := by rw [← Except.ok.inj h, trim_of_obj hvalue]
      subst htext
      refine Or.inr ⟨?_, rfl, ⟨proxy, hfound, hvalue⟩, hjson.one_line ht⟩
      rintro rfl
      obtain ⟨inner, heq⟩ := braces_of_obj hvalue
      cases heq

/-- The lines of the proxies stand for the servers that have one. -/
theorem forall₂_clashProxies (hjson : WritesJson to_json) {user : User} {servers : List JsonDict}
    {proxies : List String} (h : clashProxies to_json user servers = .ok proxies) :
    ∃ texts, proxies = texts.map ("  - " ++ ·) ∧
      List.Forall₂ (ProxyText to_json user.uuid) texts (servers.filter (hasProxy user.uuid)) := by
  unfold clashProxies at h
  obtain ⟨texts, htexts, hproxies⟩ := except_bind_ok h
  refine ⟨texts.filter (· ≠ ""), (Except.ok.inj hproxies).symm, ?_⟩
  have hall := forall₂_of_mapM_ok htexts
  clear htexts hproxies h
  induction hall with
  | nil => exact .nil
  | @cons server text servers texts hfirst _ ih =>
      rcases clashProxyText_cases hjson hfirst with ⟨hempty, hnone⟩ | ⟨hsome, hhas, htext⟩
      · rwa [List.filter_cons_of_neg (by simp [hempty]), List.filter_cons_of_neg (by simp [hnone])]
      · rw [List.filter_cons_of_pos (by simpa using hsome), List.filter_cons_of_pos hhas]
        exact .cons htext ih

/-- The lines of the group stand for the names of the servers that have a proxy. -/
theorem forall₂_clashGroup (hjson : WritesJson to_json) {user : User} {servers : List JsonDict}
    {group : List (List String)} (h : servers.mapM (clashGroupLine to_json user) = .ok group) :
    ∃ names, group.flatten = names.map ("      - " ++ ·) ∧
      List.Forall₂ (fun name server => to_json (dictGet server "name") = .ok name) names
        (servers.filter (hasProxy user.uuid)) := by
  have hall := forall₂_of_mapM_ok h
  clear h
  induction hall with
  | nil => exact ⟨[], rfl, .nil⟩
  | @cons server line servers lines hfirst _ ih =>
      obtain ⟨names, hnames, hvalues⟩ := ih
      unfold clashGroupLine at hfirst
      obtain ⟨proxy, hproxy, hfirst⟩ := except_bind_ok hfirst
      rcases clashProxyText_cases hjson hproxy with ⟨hempty, hnone⟩ | ⟨hsome, hhas, -⟩
      · rw [if_neg (not_not.mpr hempty)] at hfirst
        refine ⟨names, ?_, ?_⟩
        · rw [← Except.ok.inj hfirst, List.flatten_cons, List.nil_append, hnames]
        · rwa [List.filter_cons_of_neg (by simp [hnone])]
      · rw [if_pos hsome] at hfirst
        obtain ⟨name, hname, hfirst⟩ := except_bind_ok hfirst
        refine ⟨name :: names, ?_, ?_⟩
        · rw [← Except.ok.inj hfirst, List.flatten_cons, hnames]
          rfl
        · rw [List.filter_cons_of_pos hhas]
          exact .cons hname hvalues

/-- The lines of a document, when no line has a break in it. -/
theorem splitOn_intercalate_lines {lines : List String} (h : ∀ line ∈ lines, '\n' ∉ line.toList)
    (hsome : lines ≠ []) :
    ("\n".intercalate lines).toList.splitOn '\n' = lines.map String.toList := by
  rw [String.toList_intercalate]
  refine List.splitOn_intercalate '\n' ?_ (by simpa using hsome)
  intro l hl
  obtain ⟨line, hline, rfl⟩ := List.mem_map.mp hl
  exact h line hline

/-- The entries that were written under a key. -/
theorem entriesUnder_lines {key dash : String} {before entries after : List String}
    (hlines : ∀ line ∈ before ++ key :: (entries.map (dash ++ ·) ++ after), '\n' ∉ line.toList)
    (hbefore : ∀ line ∈ before, line ≠ key)
    (hafter : (after.map String.toList).takeWhile (dash.toList.isPrefixOf ·) = []) :
    entriesUnder key dash
      ("\n".intercalate (before ++ key :: (entries.map (dash ++ ·) ++ after))) = entries := by
  have hpassed : ∀ l ∈ before.map String.toList, decide (l ≠ key.toList) = true := by
    intro l hl
    obtain ⟨line, hline, rfl⟩ := List.mem_map.mp hl
    exact decide_eq_true fun heq => hbefore line hline (String.toList_injective heq)
  have hdashes : ∀ l ∈ (entries.map (dash ++ ·)).map String.toList,
      dash.toList.isPrefixOf l = true := by
    intro l hl
    rw [List.map_map] at hl
    obtain ⟨entry, -, rfl⟩ := List.mem_map.mp hl
    show dash.toList.isPrefixOf (dash ++ entry).toList = true
    rw [String.toList_append, List.isPrefixOf_iff_prefix]
    exact List.prefix_append _ _
  unfold entriesUnder
  dsimp only
  rw [splitOn_intercalate_lines hlines (by simp), List.map_append,
    List.dropWhile_append_of_pos hpassed, List.map_cons, List.dropWhile_cons, if_neg (by simp),
    List.drop_succ_cons, List.drop_zero, List.map_append, List.takeWhile_append_of_pos hdashes,
    hafter, List.append_nil, List.map_map, List.map_map]
  conv_rhs => rw [← List.map_id entries]
  refine List.map_congr_left ?_
  intro entry _
  show String.ofList ((dash ++ entry).toList.drop dash.toList.length) = entry
  simp

/-- The lines before the proxies. -/
def clashHead : List String :=
  ["mixed-port: 7890", "allow-lan: true", "mode: rule", "log-level: warning", ""]

/-- The key of the group, but for its last line. -/
def clashGroupHead : List String :=
  ["", "proxy-groups:", "  - name: PROXY", "    type: select"]

/-- The lines after the group. -/
def clashRules : List String := ["", "rules:", "  - MATCH,PROXY"]

/-- The lines of the document. -/
def clashLines (texts entries : List String) : List String :=
  clashHead ++ "proxies:" :: (texts.map ("  - " ++ ·) ++
    (clashGroupHead ++ "    proxies:" :: (entries.map ("      - " ++ ·) ++ clashRules)))

/-- No line has a break in it. -/
theorem newline_not_mem_clashLines {texts entries : List String}
    (htexts : ∀ text ∈ texts, '\n' ∉ text.toList)
    (hentries : ∀ entry ∈ entries, '\n' ∉ entry.toList) :
    ∀ line ∈ clashLines texts entries, '\n' ∉ line.toList := by
  have hdash : ∀ first text : String, '\n' ∉ first.toList → '\n' ∉ text.toList →
      '\n' ∉ (first ++ text).toList := by
    intro first text hfirst htext
    rw [String.toList_append, List.mem_append]
    exact not_or.mpr ⟨hfirst, htext⟩
  have hfixed : ∀ line ∈ clashHead ++ clashGroupHead ++ clashRules ++ ["proxies:", "    proxies:"],
      '\n' ∉ line.toList := by decide
  intro line hline
  by_cases hknown : line ∈ clashHead ++ clashGroupHead ++ clashRules ++ ["proxies:", "    proxies:"]
  · exact hfixed line hknown
  · simp only [clashLines, List.mem_append, List.mem_cons, List.mem_map, List.not_mem_nil,
      or_false] at hline hknown
    simp only [not_or] at hknown
    obtain ⟨⟨⟨hhead, hgroup⟩, hrules⟩, hkey, hkey'⟩ := hknown
    simp only [hhead, hgroup, hrules, hkey, hkey', false_or, or_false] at hline
    rcases hline with ⟨text, htext, rfl⟩ | ⟨entry, hentry, rfl⟩
    · exact hdash _ _ (by decide) (htexts text htext)
    · exact hdash _ _ (by decide) (hentries entry hentry)

section

variable {texts entries : List String} (htexts : ∀ text ∈ texts, '\n' ∉ text.toList)
  (hentries : ∀ entry ∈ entries, '\n' ∉ entry.toList)

include htexts hentries

theorem proxyEntries_clashLines :
    proxyEntries ("\n".intercalate (clashLines texts entries)) = texts :=
  entriesUnder_lines (newline_not_mem_clashLines htexts hentries) (by decide) rfl

theorem groupEntries_clashLines :
    groupEntries ("\n".intercalate (clashLines texts entries)) = entries := by
  have hlines := newline_not_mem_clashLines htexts hentries
  have hsplit : clashLines texts entries =
      (clashHead ++ "proxies:" :: (texts.map ("  - " ++ ·) ++ clashGroupHead)) ++
        "    proxies:" :: (entries.map ("      - " ++ ·) ++ clashRules) := by
    simp [clashLines]
  rw [hsplit] at hlines ⊢
  refine entriesUnder_lines hlines (fun line hline heq => ?_) rfl
  have hhead : ∀ line ∈ clashHead ++ ["proxies:"] ++ clashGroupHead, line ≠ "    proxies:" := by
    decide
  by_cases hknown : line ∈ clashHead ++ ["proxies:"] ++ clashGroupHead
  · exact hhead line hknown heq
  · simp only [List.mem_append, List.mem_cons, List.mem_map, List.not_mem_nil, or_false]
      at hline hknown
    obtain ⟨text, -, rfl⟩ : ∃ text ∈ texts, "  - " ++ text = line := by tauto
    -- a proxy has its dash where the key still has a space
    have hthird := congrArg (fun line : String => line.toList[2]?) heq
    revert hthird
    simp

end

/-- **The Clash document** lists the proxies of the servers that have one, and in the group their
    names and DIRECT. -/
theorem entries_clash (hjson : WritesJson to_json) {user : User} {servers : List JsonDict}
    {doc : String} (h : clash to_json user servers = .ok doc) :
    (∃ names, groupEntries doc = names ++ ["DIRECT"] ∧
      List.Forall₂ (fun name server => ValueText name.toList (dictGet server "name")) names
        (servers.filter (hasProxy user.uuid))) ∧
      List.Forall₂ (ProxyText to_json user.uuid) (proxyEntries doc)
        (servers.filter (hasProxy user.uuid)) := by
  unfold clash at h
  obtain ⟨proxies, hproxies, h⟩ := except_bind_ok h
  obtain ⟨group, hgroup, h⟩ := except_bind_ok h
  obtain ⟨texts, rfl, hvalues⟩ := forall₂_clashProxies hjson hproxies
  obtain ⟨names, hflat, hnames⟩ := forall₂_clashGroup hjson hgroup
  have htexts : ∀ text ∈ texts, '\n' ∉ text.toList := by
    intro text htext
    obtain ⟨server, -, hserver⟩ := exists_mem_of_forall₂ hvalues.flip htext
    exact hserver.one_line
  have hentries : ∀ entry ∈ names ++ ["DIRECT"], '\n' ∉ entry.toList := by
    intro entry hentry
    rcases List.mem_append.mp hentry with hname | hdirect
    · obtain ⟨server, -, hserver⟩ := exists_mem_of_forall₂ hnames.flip hname
      exact hjson.one_line hserver
    · rw [List.mem_singleton.mp hdirect]
      decide
  have hdoc : doc = "\n".intercalate (clashLines texts (names ++ ["DIRECT"])) := by
    rw [← Except.ok.inj h, hflat]
    simp [clashLines, clashHead, clashGroupHead, clashRules]
  rw [hdoc, groupEntries_clashLines htexts hentries, proxyEntries_clashLines htexts hentries]
  exact ⟨⟨names, rfl, hnames.imp fun _ _ hname => hjson.value hname⟩, hvalues⟩

/-! ## §6. The documents together. -/

/-- The structured subscriptions of a user are well formed. -/
structure WellFormedDocuments (rt : Runtime) (to_json : Json → Except PyExc String) (user : User)
    (servers : List JsonDict) : Prop where
  /-- One outbound a server after the fixed ones, each under its tag; no group lists another. -/
  singbox : ∀ {old : Bool} {doc : String}, singbox to_json user servers old = .ok doc →
    ∃ outbounds, JsonText doc.toList (singboxDocument servers outbounds) ∧
      List.Forall₂ (fun server outbound => singboxOutbound user.uuid server old = .ok outbound ∧
        dictGet outbound "tag" = dictGet server "name") servers outbounds ∧
      ∀ group, group = selector servers ∨ group = urltest servers →
        ∀ tag ∈ listedTags group,
          ∃ outbound ∈ allOutbounds servers outbounds, member outbound "tag" = tag
  /-- The flagged servers, in order. -/
  sip008 : ∀ {doc : String}, sip008 rt to_json user servers = .ok doc →
    JsonText doc.toList (sip008Document user servers)
  /-- The proxies of the servers that have one, in order; and in the group their names and
      DIRECT. -/
  clash : ∀ {doc : String}, clash to_json user servers = .ok doc →
    (∃ names, groupEntries doc = names ++ ["DIRECT"] ∧
      List.Forall₂ (fun name server => ValueText name.toList (dictGet server "name")) names
        (servers.filter (hasProxy user.uuid))) ∧
      List.Forall₂ (ProxyText to_json user.uuid) (proxyEntries doc)
        (servers.filter (hasProxy user.uuid))

/-- Whatever the servers and their names are, what is rendered is well formed. -/
theorem structured_subscriptions_wellFormed (hjson : WritesJson to_json) (user : User)
    {servers : List JsonDict} (hserved : ∀ server ∈ servers, Served rt fm server) :
    WellFormedDocuments rt to_json user servers := by
  constructor
  · intro old doc h
    obtain ⟨outbounds, hdoc, houtbounds⟩ := jsonText_singbox hjson h
    refine ⟨outbounds, hdoc, ?_, ?_⟩
    · exact houtbounds.imp fun _ _ houtbound => ⟨houtbound, singboxOutbound_tag houtbound⟩
    · intro group hgroup tag htag
      exact exists_outbound_of_listed houtbounds hgroup htag
  · intro doc h
    exact jsonText_sip008 hjson hserved h
  · intro doc h
    exact entries_clash hjson h

/-! Runs on fixed inputs. -/

def documentReader : User :=
  { id := 1, email := "u@example.com", password := "", uuid := "uuid-1", token := "t" }

/-- A shadowsocks node whose name has a quote and a line break. -/
def oddNode : ServerV2Node :=
  { id := 1, group_id := .arr [.int 1], name := "a\"b\nc", host := "h", port := "443",
    server_port := 443, rate := "1", protocol := "shadowsocks", tls := 0, network := "tcp",
    cipher := some "aes-128-gcm" }

def oddServer : JsonDict :=
  (nodeToSubscribeDict Utc.bare plainFormats oddNode documentReader.uuid).toOption.getD []

theorem structured_subscriptions_wellFormed_odd :
    WellFormedDocuments Utc.bare plainDumps documentReader [oddServer, oddServer] := by
  have hentry : nodeToSubscribeDict Utc.bare plainFormats oddNode documentReader.uuid =
      .ok oddServer := by
    decide +kernel
  have hserved : ∀ server ∈ [oddServer, oddServer], Served Utc.bare plainFormats server := by
    intro server hmem
    simp only [List.mem_cons, List.not_mem_nil, or_false, or_self] at hmem
    rw [hmem]
    exact ⟨oddNode, _, oddServer, hentry, .inl rfl⟩
  exact structured_subscriptions_wellFormed writesJson_plainDumps documentReader hserved

/-- The group lists DIRECT even without a server. -/
theorem group_lists_direct : ¬ ∀ (servers : List JsonDict) (doc : String),
    clash plainDumps documentReader servers = .ok doc →
      List.Forall₂ (fun name server => ValueText name.toList (dictGet server "name"))
        (groupEntries doc) (servers.filter (hasProxy documentReader.uuid)) := by
  intro h
  have hdoc : clash plainDumps documentReader [] =
      .ok ((clash plainDumps documentReader []).toOption.getD "") := by
    decide +kernel
  have hall := h [] _ hdoc
  have hgroup : groupEntries ((clash plainDumps documentReader []).toOption.getD "") =
      ["DIRECT"] := by
    decide +kernel
  rw [hgroup] at hall
  cases hall

end PyBoard
