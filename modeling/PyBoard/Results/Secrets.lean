/-
  PyBoard.Results.Secrets — the secrets of a node in what its users are sent.

  The entry of a node is a copy of its columns, and among these are the settings of TLS
  and of the encryption as they are stored.  Two lists of nodes that differ in the secrets
  of these settings give one page and one subscription only if the secrets are not
  delivered at all, or are the same (`node_secrets_hidden_iff`).

  Main results:
    * `getAvailableServers_congr` — what the page is made of.
    * `node_secrets_hidden_iff` — when two lists of nodes cannot be told apart.
-/
import PyBoard.Relational.Views
import PyBoard.Results.Tags
import PyBoard.Services.Subscription
import PyBoard.Specs.Auth

namespace PyBoard

open Relational

variable {rt : Runtime} {fm : Formats}

/-! ## §1. What the services see. -/

theorem sees_liftExcept {A : Tbl → Prop} {α : Type} (x : Except PyExc α) :
    (liftExcept x).Sees A := by
  cases x with
  | ok a => exact .ret a
  | error e => exact .throw e

section

variable {A : Tbl → Prop} (hcache : A .runtime_cache)

include hcache

theorem RuntimeCache.sees_deleteExpiredKey (key : String) (now : Int) :
    (RuntimeCache.deleteExpiredKey key now).Sees A :=
  .bind (.deleteReturning hcache _) fun _ => .ret _

theorem RuntimeCache.sees_get (key : String) : (RuntimeCache.get key).Sees A := by
  unfold RuntimeCache.get
  refine .bind (.stmt trivial) fun now => .bind (.stmt hcache) fun rows => .bind ?_ fun _ => .ret _
  exact .ite (sees_deleteExpiredKey hcache key now) (.ret _)

theorem RuntimeCache.sees_set (key : String) (value : Json) (ex : Option Int) (nx : Bool) :
    (RuntimeCache.set key value ex nx).Sees A := by
  unfold RuntimeCache.set
  refine .bind (.stmt trivial) fun now => .ite ?_ ?_
  · exact .bind (sees_deleteExpiredKey hcache key now) fun _ => .stmt hcache
  · exact .bind (.stmt hcache) fun _ => .ret _

variable (hsetting : A .setting)

include hsetting

theorem SettingService.Cached.sees_getCached (key : String) :
    (SettingService.Cached.getCached rt key).Sees A := by
  unfold SettingService.Cached.getCached
  refine .bind (RuntimeCache.sees_get hcache _) fun found => ?_
  cases found with
  | some val => exact .ret _
  | none =>
      refine .bind (.bind (.stmt hsetting) fun rows => ?_) fun item => ?_
      · match rows with
        | [] => exact .ret _
        | [_] => exact .ret _
        | _ :: _ :: _ => exact .throw _
      · cases item with
        | none => exact .ret _
        | some item =>
            refine .bind (.bind ?_ fun _ => .ret _) fun _ => .ret _
            exact RuntimeCache.sees_set hcache _ _ _ _

theorem SettingService.Cached.sees_getStr (key default : String) :
    (SettingService.Cached.getStr rt key default).Sees A :=
  .bind (sees_getCached hcache hsetting key) fun _ => .ret _

theorem SettingService.Cached.sees_getInt (key : String) (default : Int) :
    (SettingService.Cached.getInt rt key default).Sees A := by
  refine .bind (sees_getCached hcache hsetting key) fun found => ?_
  cases found with
  | none => exact .ret _
  | some val =>
      dsimp only
      split
      · exact .ret _
      · exact .throw _

namespace SubscribeService

omit hsetting in
theorem sees_oneTimeToken (user_token : String) (token_bytes : List UInt8) :
    (oneTimeToken rt user_token token_bytes).Sees A := by
  have hdraw : (oneTimeToken.drawToken rt user_token token_bytes).Sees A := by
    unfold oneTimeToken.drawToken
    refine .bind (RuntimeCache.sees_set hcache _ _ _ _) fun added => .ite ?_ ?_
    · exact .bind (RuntimeCache.sees_set hcache _ _ _ _) fun _ => .ret _
    · exact .bind (RuntimeCache.sees_get hcache _) fun _ => .ret _
  unfold oneTimeToken
  refine .bind (RuntimeCache.sees_get hcache _) fun found => ?_
  cases found with
  | none => exact hdraw
  | some cached => exact .ite (.ret _) hdraw

theorem sees_totpToken (user : User) : (totpToken rt fm user).Sees A := by
  refine .bind (SettingService.Cached.sees_getInt hcache hsetting _ _) fun _ => ?_
  exact .bind (.stmt trivial) fun _ => .bind (sees_liftExcept _) fun _ => .ret _

theorem sees_subscribeBaseUrl : (subscribeBaseUrl rt).Sees A := by
  refine .bind (SettingService.Cached.sees_getStr hcache hsetting _ _) fun urls => ?_
  dsimp only
  split
  · exact .ret _
  · exact .bind (SettingService.Cached.sees_getStr hcache hsetting _ _) fun _ => .ret _

theorem sees_buildSubscribeUrl (user : User) (token_bytes : List UInt8) :
    (buildSubscribeUrl rt fm user token_bytes).Sees A := by
  refine .bind (SettingService.Cached.sees_getInt hcache hsetting _ _) fun method => ?_
  refine .bind (SettingService.Cached.sees_getStr hcache hsetting _ _) fun path => ?_
  refine .bind ?_ fun token => .bind (sees_subscribeBaseUrl hcache hsetting) fun _ => .ret _
  unfold subscribeToken
  exact .ite (sees_oneTimeToken hcache _ _) (.ite (sees_totpToken hcache hsetting user) (.ret _))

end SubscribeService

end

namespace SubscribeService

/-! ## §2. Secrets. -/

/-- The settings without the keys that are secret. -/
def publicPart (secret : String → Bool) : Json → Json
  | .obj fields => .obj (fields.filter fun f => !secret f.1)
  | value => value

/-- The keys of the encryption settings that `_vless_encryption` tells a client. -/
def ENCRYPTION_CLIENT_KEYS : List String := ["mode", "rtt", "client_padding", "password"]

/-- The nodes differ at most in what the server keeps to itself: the private key of a Reality
    node, and what the encryption settings hold besides the keys of the client. -/
structure SameButSecrets (rt : Runtime) (node node' : ServerV2Node) : Prop where
  columns : node' = { node with
    tls_settings := node'.tls_settings
    encryption_settings := node'.encryption_settings }
  tls : publicPart (fun k => node.tls = 2 && k = "private_key") (settingsOf rt node.tls_settings) =
    publicPart (fun k => node.tls = 2 && k = "private_key") (settingsOf rt node'.tls_settings)
  encryption : publicPart (fun k => k ∉ ENCRYPTION_CLIENT_KEYS)
      (settingsOf rt node.encryption_settings) =
    publicPart (fun k => k ∉ ENCRYPTION_CLIENT_KEYS) (settingsOf rt node'.encryption_settings)

/-- The settings of both nodes are the same, with their secrets. -/
def SecretsAlike (rt : Runtime) (node node' : ServerV2Node) : Prop :=
  dictOrEmpty (settingsOf rt node.tls_settings) = dictOrEmpty (settingsOf rt node'.tls_settings) ∧
    settingsOf rt node.encryption_settings = settingsOf rt node'.encryption_settings

/-- The secrets are among the columns that are delivered. -/
theorem delivered_eq_iff {node node' : ServerV2Node} (h : SameButSecrets rt node node') :
    delivered rt node = delivered rt node' ↔ SecretsAlike rt node node' := by
  have hget : ∀ n : ServerV2Node, dictGet (nodeColumns rt n) "encryption_settings" =
      settingsOf rt n.encryption_settings := by
    intro n
    simp [nodeColumns, dictGet, Json.lookup]
  constructor
  · intro hsame
    obtain ⟨-, -, htls, -⟩ := normalized_eq_iff.mp (normalized_of_delivered hsame)
    refine ⟨htls, ?_⟩
    rw [← hget, ← hget]
    exact dictGet_of_delivered hsame (by decide)
  · intro halike
    obtain ⟨htls, hencryption⟩ := halike
    rw [h.columns]
    simp [delivered, dictUpdate, dictSet, nodeColumns, normalized, htls, hencryption]

/-- The entry of a node, or the error that there is none. -/
theorem nodeToSubscribeDict_eq (node : ServerV2Node) (uuid : String) :
    nodeToSubscribeDict rt fm node uuid = (ssPlugin rt (nodeColumns rt node)
      (dictOrEmpty (settingsOf rt node.network_settings))).map fun plugin =>
        delivered rt node ++ added rt fm node (keyPart fm node ++ uuidPart node uuid) plugin := by
  have hentry : nodeToSubscribeDict rt fm node uuid = (ssPlugin rt (nodeColumns rt node)
      (dictOrEmpty (settingsOf rt node.network_settings))).map fun plugin =>
        dictUpdate (nodeColumns rt node) (preparedFields rt fm (nodeColumns rt node)
          (keyPart fm node ++ uuidPart node uuid) plugin
          (dictOrEmpty (settingsOf rt node.tls_settings))
          (dictOrEmpty (settingsOf rt node.network_settings))) := by
    unfold nodeToSubscribeDict prepareSubscribeServer
    dsimp only
    rw [dictOrEmpty_tls_settings, dictOrEmpty_network_settings, ssPassword_eq]
    cases ssPlugin rt (nodeColumns rt node)
      (dictOrEmpty (settingsOf rt node.network_settings)) with
    | error e => rfl
    | ok plugin => rfl
  cases hplugin : ssPlugin rt (nodeColumns rt node)
      (dictOrEmpty (settingsOf rt node.network_settings)) with
  | error e =>
      rw [hentry, hplugin]
      simp only [Except.map]
  | ok plugin =>
      rw [hplugin] at hentry
      simp only [Except.map] at hentry
      obtain ⟨password, plugin', hpassword, hplugin', hserver⟩ := nodeToSubscribeDict_ok hentry
      rw [ssPassword_eq] at hpassword
      rw [hplugin] at hplugin'
      rw [hentry]
      simp only [Except.map]
      rw [hserver, ← Except.ok.inj hpassword, ← Except.ok.inj hplugin']

/-- Nodes that are delivered alike have one entry. -/
theorem nodeToSubscribeDict_congr {node node' : ServerV2Node} {uuid : String}
    (h : delivered rt node = delivered rt node')
    (huuid : uuidPart node uuid = uuidPart node' uuid) :
    nodeToSubscribeDict rt fm node uuid = nodeToSubscribeDict rt fm node' uuid := by
  rw [nodeToSubscribeDict_eq, nodeToSubscribeDict_eq, ssPlugin_of_delivered h, h,
    keyPart_of_delivered h, huuid]
  congr 1
  funext plugin
  rw [added_of_delivered h]

theorem mapM_congr_forall₂ {ε α β : Type} {f : α → Except ε β} {R : α → α → Prop}
    (hR : ∀ a a', R a a' → f a = f a') {l l' : List α} (h : List.Forall₂ R l l') :
    l.mapM f = l'.mapM f := by
  induction h with
  | nil => rfl
  | cons ha _ ih => rw [List.mapM_cons, List.mapM_cons, hR _ _ ha, ih]

/-! ## §3. The page and the subscription. -/

/-- The tables that are the same for both lists of nodes. -/
abbrev besidesNodes (t : Tbl) : Prop := t ≠ .server_v2node

section

variable {s s' : State Tbl} {user : User}

/-- The setting of the two entries in front. -/
def infoSetting : String := "show_info_to_server_enable"

/-- The entries of the nodes that the user sees, or the error of the first without one. -/
def entriesOf (rt : Runtime) (fm : Formats) (s : State Tbl) (user : User) :
    Except PyExc (List JsonDict) :=
  (visibleNodes rt s.db user.group_id).mapM fun node => nodeToSubscribeDict rt fm node user.uuid

/-- The entries of the two states are the same, or the setting is no number and they do not
    matter. -/
def EntriesAlike (rt : Runtime) (fm : Formats) (s s' : State Tbl) (user : User) : Prop :=
  entriesOf rt fm s user = entriesOf rt fm s' user ∨
    (∃ prepared, entriesOf rt fm s user = .ok prepared) ∧
    (∃ prepared, entriesOf rt fm s' user = .ok prepared) ∧
      ∃ e, settingInt rt s Session.fresh infoSetting 0 = .error e

theorem besidesNodes_of_readAside {K : List String} {ss : Session Tbl}
    (h : ReadAside K s Session.fresh ss) : ∀ w ∈ ss.ws, besidesNodes w.table := by
  intro w hw
  rw [h.only w hw]
  decide

/-- The page is made of the entries, whatever other settings have been read. -/
theorem getAvailableServers_congr (h : Agree besidesNodes s s')
    (hentries : isAvailable s.now user = true → EntriesAlike rt fm s s' user) {K : List String}
    {ss : Session Tbl} (hread : ReadAside K s Session.fresh ss) (hK : infoSetting ∉ K) :
    (getAvailableServers rt fm user).run s' ss = (getAvailableServers rt fm user).run s ss := by
  have hview : ∀ s : State Tbl, s.view ss .server_v2node = s.db .server_v2node :=
    fun s => DB.apply_of_table_not_mem _ _ (besidesNodes_of_readAside hread)
  have hnodes : ∀ s : State Tbl, visibleNodes rt (s.view ss) user.group_id =
      visibleNodes rt s.db user.group_id := by
    intro s
    unfold visibleNodes
    rw [hview]
  have hinfo : (SettingService.Cached.getInt rt infoSetting 0).Sees besidesNodes :=
    SettingService.Cached.sees_getInt (by decide) (by decide) _ _
  unfold getAvailableServers time
  rw [Prog.bind_eq, Prog.run_clock_bind, Prog.run_clock_bind, h.now]
  by_cases havailable : isAvailable s.now user = true
  · rw [if_neg (by simp [havailable]), Prog.bind_eq, Prog.run_bind, Prog.run_bind,
      run_listVisibleByGroup, run_listVisibleByGroup, hnodes, hnodes]
    show ((liftExcept (entriesOf rt fm s' user)).bind _).run s' ss =
      ((liftExcept (entriesOf rt fm s user)).bind _).run s ss
    rcases hentries havailable with hsame | ⟨⟨prepared, hprepared⟩, ⟨prepared', hprepared'⟩, e, he⟩
    · rw [← hsame]
      have hrest : ∀ servers : Except PyExc (List JsonDict),
          ((liftExcept servers).bind fun servers =>
            (SettingService.Cached.getInt rt infoSetting 0).bind fun info =>
              if info ≠ 0 then Prog.ret (prependSubscribeInfoServers fm servers user)
              else Prog.ret servers : Db _).Sees besidesNodes :=
        fun servers => .bind (sees_liftExcept _) fun servers =>
          .bind hinfo fun info => .ite (.ret _) (.ret _)
      exact (hrest _).run_congr h ss
    · -- the setting is read after the entries are made
      obtain ⟨ss', hrun, -⟩ : ∃ ss', (SettingService.Cached.getInt rt infoSetting 0).run s ss =
          (settingInt rt s Session.fresh infoSetting 0, ss') ∧ _ := decides_getInt hK 0 ss hread
      rw [he] at hrun
      rw [hprepared, hprepared']
      show ((SettingService.Cached.getInt rt infoSetting 0).bind _).run s' ss =
        ((SettingService.Cached.getInt rt infoSetting 0).bind _).run s ss
      rw [Prog.run_bind, Prog.run_bind, hinfo.run_congr h, hrun]
  · rw [if_pos (by simp [havailable])]
    rfl

theorem renderSubscription_congr (h : Agree besidesNodes s s')
    (hentries : isAvailable s.now user = true → EntriesAlike rt fm s s' user)
    (flag : String) (token_bytes : List UInt8) :
    (renderSubscription rt fm user flag token_bytes).run s' Session.fresh =
      (renderSubscription rt fm user flag token_bytes).run s Session.fresh := by
  unfold renderSubscription time
  rw [Prog.bind_eq, Prog.run_clock_bind, Prog.run_clock_bind, h.now]
  split
  · rfl
  have hfresh : ReadAside [] s Session.fresh Session.fresh := .refl .fresh
  have hstr : ∀ key default : String,
      (SettingService.Cached.getStr rt key default).Sees besidesNodes :=
    SettingService.Cached.sees_getStr (by decide) (by decide)
  have hread : ∀ {K : List String} {ss ss' : Session Tbl} {key default : String}
      {answer : Except PyExc String}, ReadAside K s Session.fresh ss → key ∉ K →
      (SettingService.Cached.getStr rt key default).run s ss = (answer, ss') →
        ReadAside (key :: K) s Session.fresh ss' := by
    intro K ss ss' key default answer h hkey hrun
    obtain ⟨ss'', hrun', h'⟩ : ∃ ss'', (SettingService.Cached.getStr rt key default).run s ss =
        (settingStr rt s Session.fresh key default, ss'') ∧ ReadAside (key :: K) s _ ss'' :=
      decides_getStr hkey default ss h
    rw [hrun] at hrun'
    rw [(Prod.mk.inj hrun').2]
    exact h'
  refine Prog.run_bind_congr ((hstr _ _).run_congr h _) fun app_name ss₁ hrun₁ => ?_
  have h₁ : ReadAside ["app_name"] s Session.fresh ss₁ := hread hfresh (by decide) hrun₁
  refine Prog.run_bind_congr ((hstr _ _).run_congr h _) fun app_url ss₂ hrun₂ => ?_
  have h₂ : ReadAside ["app_url", "app_name"] s Session.fresh ss₂ := hread h₁ (by decide) hrun₂
  rw [Prog.bind_eq]
  cases detectFormat rt fm flag with
  | error e => rfl
  | ok subscribe_format =>
    show ((getAvailableServers rt fm user).bind _).run s' ss₂ =
      ((getAvailableServers rt fm user).bind _).run s ss₂
    refine Prog.run_bind_congr (getAvailableServers_congr h hentries h₂ (by decide))
      fun servers ss₄ _ => ?_
    -- what is left does not look at the nodes
    have hrest : ((buildSubscribeUrl rt fm user token_bytes).bind fun subscribe_url =>
        liftExcept (renderWith fm user app_name app_url subscribe_url subscribe_format
          (formatServers subscribe_format servers)) : Db _).Sees besidesNodes :=
      .bind (sees_buildSubscribeUrl (by decide) (by decide) _ _) fun _ => sees_liftExcept _
    exact hrest.run_congr h ss₄

/-- What the page of an available user is made of. -/
theorem getAvailableServers_shown {ss : Session Tbl} {servers : List JsonDict}
    (havailable : isAvailable s.now user = true)
    (h : (getAvailableServers rt fm user).run s Session.fresh = (.ok servers, ss)) :
    ∃ prepared info, (visibleNodes rt s.db user.group_id).mapM
        (fun node => nodeToSubscribeDict rt fm node user.uuid) = .ok prepared ∧
      ((SettingService.Cached.getInt rt "show_info_to_server_enable" 0).run s Session.fresh).1 =
        .ok info ∧
      servers = if info ≠ 0 then prependSubscribeInfoServers fm prepared user else prepared := by
  unfold getAvailableServers time at h
  rw [Prog.bind_eq, Prog.run_clock_bind, if_neg (by simp [havailable]), Prog.bind_eq, Prog.run_bind,
    run_listVisibleByGroup] at h
  dsimp only at h
  obtain ⟨prepared, hprepared, h⟩ := run_liftExcept_bind h
  obtain ⟨info, ss₁, hinfo, h⟩ := Prog.run_bind_ok h
  refine ⟨prepared, info, hprepared, by rw [hinfo], ?_⟩
  split at h
  · next hshown =>
    rw [if_pos hshown]
    exact (Except.ok.inj (Prod.mk.inj h).1).symm
  · next hplain =>
    rw [if_neg hplain]
    exact (Except.ok.inj (Prod.mk.inj h).1).symm

/-- The two entries in front hide none of the others. -/
theorem prependSubscribeInfoServers_injective {l l' : List JsonDict}
    (h : prependSubscribeInfoServers fm l user = prependSubscribeInfoServers fm l' user) :
    l = l' := by
  cases l with
  | nil =>
      cases l' with
      | nil => rfl
      | cons _ _ => cases h
  | cons first rest =>
      cases l' with
      | nil => cases h
      | cons _ _ =>
          exact ((prependSubscribeInfoServers_eq_iff (List.cons_ne_nil _ _)
            (List.cons_ne_nil _ _)).mp h).1

theorem forall₂_and {α : Type} {P Q R : α → α → Prop} {l l' : List α}
    (hR : ∀ a a', P a a' → Q a a' → R a a') (hP : List.Forall₂ P l l')
    (hQ : List.Forall₂ Q l l') : List.Forall₂ R l l' := by
  induction hP with
  | nil => exact .nil
  | cons hp _ ih =>
      cases hQ with
      | cons hq hrest => exact .cons (hR _ _ hp hq) (ih hrest)

/-- The page and the subscriptions of the user are the same in both states. -/
def SameForUser (rt : Runtime) (fm : Formats) (user : User) (s s' : State Tbl) : Prop :=
  ((getAvailableServers rt fm user).run s' Session.fresh).1 =
      ((getAvailableServers rt fm user).run s Session.fresh).1 ∧
    ∀ flag token_bytes,
      ((renderSubscription rt fm user flag token_bytes).run s' Session.fresh).1 =
        ((renderSubscription rt fm user flag token_bytes).run s Session.fresh).1

/-- What the user is sent is made of the entries. -/
theorem sameForUser_of_entries (hagree : Agree besidesNodes s s')
    (hentries : isAvailable s.now user = true → EntriesAlike rt fm s s' user) :
    SameForUser rt fm user s s' := by
  have hread : ReadAside [] s Session.fresh Session.fresh := .refl .fresh
  refine ⟨?_, fun flag token_bytes => ?_⟩
  · rw [getAvailableServers_congr hagree hentries hread (by decide)]
  · rw [renderSubscription_congr hagree hentries]

/-- Equal secrets make equal entries. -/
theorem entriesOf_of_alike (hnodes : List.Forall₂ (SameButSecrets rt)
      (visibleNodes rt s.db user.group_id) (visibleNodes rt s'.db user.group_id))
    (halike : List.Forall₂ (SecretsAlike rt)
      (visibleNodes rt s.db user.group_id) (visibleNodes rt s'.db user.group_id)) :
    entriesOf rt fm s user = entriesOf rt fm s' user := by
  refine mapM_congr_forall₂ (fun node node' hboth => ?_)
    (forall₂_and (fun _ _ hnode hsame => And.intro hnode hsame) hnodes halike)
  have huuid : uuidPart node user.uuid = uuidPart node' user.uuid := by
    rw [hboth.1.columns]
    rfl
  exact nodeToSubscribeDict_congr ((delivered_eq_iff hboth.1).mpr hboth.2) huuid

/-- A page that is served tells the secrets. -/
theorem alike_of_served {ss ss' : Session Tbl} {servers : List JsonDict}
    (hagree : Agree besidesNodes s s')
    (hnodes : List.Forall₂ (SameButSecrets rt) (visibleNodes rt s.db user.group_id)
      (visibleNodes rt s'.db user.group_id))
    (havailable : isAvailable s.now user = true)
    (h : (getAvailableServers rt fm user).run s Session.fresh = (.ok servers, ss))
    (h' : (getAvailableServers rt fm user).run s' Session.fresh = (.ok servers, ss')) :
    List.Forall₂ (SecretsAlike rt) (visibleNodes rt s.db user.group_id)
      (visibleNodes rt s'.db user.group_id) := by
  obtain ⟨prepared, info, hprepared, hinfo, hservers⟩ := getAvailableServers_shown havailable h
  obtain ⟨prepared', info', hprepared', hinfo', hservers'⟩ :=
    getAvailableServers_shown (hagree.now ▸ havailable) h'
  have hsetting : (SettingService.Cached.getInt rt "show_info_to_server_enable" 0).Sees
      besidesNodes := SettingService.Cached.sees_getInt (by decide) (by decide) _ _
  rw [hsetting.run_congr hagree, hinfo] at hinfo'
  rw [← Except.ok.inj hinfo'] at hservers'
  have hentries : prepared = prepared' := by
    rw [hservers] at hservers'
    split at hservers'
    · exact prependSubscribeInfoServers_injective hservers'
    · exact hservers'
  refine forall₂_and (fun node node' hnode hentry => ?_) hnodes
    ((entries_eq_iff hprepared hprepared').mp hentries)
  exact (delivered_eq_iff hnode).mp hentry.1

/-- **When two lists of nodes that differ in secrets cannot be told apart**: the page and the
    subscriptions of an available user are the same exactly if the secrets are. -/
theorem node_secrets_hidden_iff {ss : Session Tbl} {servers : List JsonDict}
    (hagree : Agree besidesNodes s s')
    (hnodes : List.Forall₂ (SameButSecrets rt) (visibleNodes rt s.db user.group_id)
      (visibleNodes rt s'.db user.group_id))
    (h : (getAvailableServers rt fm user).run s Session.fresh = (.ok servers, ss)) :
    (((getAvailableServers rt fm user).run s' Session.fresh).1 = .ok servers ∧
      ∀ flag token_bytes,
        ((renderSubscription rt fm user flag token_bytes).run s' Session.fresh).1 =
          ((renderSubscription rt fm user flag token_bytes).run s Session.fresh).1) ↔
    (isAvailable s.now user = true → List.Forall₂ (SecretsAlike rt)
      (visibleNodes rt s.db user.group_id) (visibleNodes rt s'.db user.group_id)) := by
  constructor
  · intro hsame havailable
    have hpage := hsame.1
    cases hrun : (getAvailableServers rt fm user).run s' Session.fresh with
    | mk answer ss' =>
        rw [hrun] at hpage
        have hanswer : answer = .ok servers := hpage
        exact alike_of_served hagree hnodes havailable h (hanswer ▸ hrun)
  · intro halike
    have hsame : SameForUser rt fm user s s' := sameForUser_of_entries hagree
      fun havailable => Or.inl (entriesOf_of_alike hnodes (halike havailable))
    refine ⟨hsame.1.trans ?_, hsame.2⟩
    rw [h]

/-! ## §4. Pages that are not served. -/

/-- The page of the user is made: every node that the user sees has an entry, and the setting of
    the entries in front is a number. -/
structure PageMade (rt : Runtime) (user : User) (s : State Tbl) : Prop where
  entries : ∀ node ∈ visibleNodes rt s.db user.group_id, ∃ plugin,
    ssPlugin rt (nodeColumns rt node) (dictOrEmpty (settingsOf rt node.network_settings)) =
      .ok plugin
  info : ∃ info, settingInt rt s Session.fresh infoSetting 0 = .ok info

/-- The plugin of a node is not made of its secrets. -/
theorem ssPlugin_of_sameButSecrets {node node' : ServerV2Node}
    (h : SameButSecrets rt node node') :
    ssPlugin rt (nodeColumns rt node) (dictOrEmpty (settingsOf rt node.network_settings)) =
      ssPlugin rt (nodeColumns rt node') (dictOrEmpty (settingsOf rt node'.network_settings)) := by
  obtain ⟨tls, encryption, rfl⟩ : ∃ tls encryption, node' = { node with
      tls_settings := tls, encryption_settings := encryption } := ⟨_, _, h.columns⟩
  have hread : ∀ k ∈ ["obfs", "obfs_host", "obfs-host", "obfs_path", "obfs-path", "network"],
      dictGet (nodeColumns rt node) k = dictGet (nodeColumns rt { node with
        tls_settings := tls, encryption_settings := encryption }) k := by
    intro k hk
    simp only [List.mem_cons, List.not_mem_nil, or_false] at hk
    rcases hk with rfl | rfl | rfl | rfl | rfl | rfl <;> rfl
  unfold ssPlugin
  dsimp only
  rw [hread "obfs" (by decide), hread "obfs_host" (by decide), hread "obfs-host" (by decide),
    hread "obfs_path" (by decide), hread "obfs-path" (by decide), hread "network" (by decide)]

/-- A node has an entry if its plugin can be made. -/
theorem entry_ok_iff {node : ServerV2Node} {uuid : String} :
    (∃ server, nodeToSubscribeDict rt fm node uuid = .ok server) ↔
      ∃ plugin, ssPlugin rt (nodeColumns rt node)
        (dictOrEmpty (settingsOf rt node.network_settings)) = .ok plugin := by
  rw [nodeToSubscribeDict_eq]
  cases ssPlugin rt (nodeColumns rt node)
      (dictOrEmpty (settingsOf rt node.network_settings)) with
  | error e => simp [Except.map]
  | ok plugin => simp [Except.map]

/-- The first node without an entry is at the same place in both lists. -/
theorem entriesOf_error_congr {e : PyExc}
    (hnodes : List.Forall₂ (SameButSecrets rt) (visibleNodes rt s.db user.group_id)
      (visibleNodes rt s'.db user.group_id)) (h : entriesOf rt fm s user = .error e) :
    entriesOf rt fm s' user = .error e := by
  unfold entriesOf at h ⊢
  generalize visibleNodes rt s.db user.group_id = nodes at hnodes h
  generalize visibleNodes rt s'.db user.group_id = nodes' at hnodes
  induction hnodes with
  | nil => cases h
  | @cons node node' nodes nodes' hnode _ ih =>
    rw [List.mapM_cons] at h ⊢
    have hplugin := ssPlugin_of_sameButSecrets hnode
    cases hentry : nodeToSubscribeDict rt fm node user.uuid with
    | error e' =>
      rw [hentry] at h
      rw [nodeToSubscribeDict_eq] at hentry ⊢
      rw [← hplugin]
      cases hfirst : ssPlugin rt (nodeColumns rt node)
          (dictOrEmpty (settingsOf rt node.network_settings)) with
      | ok plugin =>
        rw [hfirst] at hentry
        cases hentry
      | error e'' =>
        rw [hfirst] at hentry
        cases hentry
        exact h
    | ok server =>
      rw [hentry] at h
      obtain ⟨server', hserver'⟩ : ∃ server', nodeToSubscribeDict rt fm node' user.uuid =
          .ok server' := entry_ok_iff.mpr (hplugin ▸ entry_ok_iff.mp ⟨server, hentry⟩)
      rw [hserver']
      cases hrest : nodes.mapM fun node => nodeToSubscribeDict rt fm node user.uuid with
      | ok servers =>
        rw [hrest] at h
        cases h
      | error e' =>
        rw [hrest] at h
        rw [ih (by rw [hrest]; exact h)]
        rfl

/-- A page that can be made is served. -/
theorem PageMade.served (h : PageMade rt user s) (havailable : isAvailable s.now user = true) :
    ∃ servers ss, (getAvailableServers rt fm user).run s Session.fresh = (.ok servers, ss) := by
  obtain ⟨prepared, hprepared⟩ : ∃ prepared, entriesOf rt fm s user = .ok prepared :=
    mapM_isOk_iff.mpr fun node hnode => entry_ok_iff.mpr (h.entries node hnode)
  obtain ⟨info, hinfo⟩ := h.info
  obtain ⟨ss, hrun, -⟩ := run_getInt_alone rt (s := s) CacheOnly.fresh infoSetting 0
  rw [hinfo] at hrun
  unfold getAvailableServers time
  rw [Prog.bind_eq, Prog.run_clock_bind, if_neg (by simp [havailable]), Prog.bind_eq,
    Prog.run_bind, run_listVisibleByGroup]
  show ∃ servers ss, ((liftExcept (entriesOf rt fm s user)).bind _).run s Session.fresh = _
  rw [hprepared]
  show ∃ servers ss, ((SettingService.Cached.getInt rt infoSetting 0).bind _).run s Session.fresh =
    (.ok servers, ss)
  rw [Prog.run_bind, hrun]
  dsimp only
  split
  · exact ⟨_, _, rfl⟩
  · exact ⟨_, _, rfl⟩

/-- A page that cannot be made says nothing of the secrets. -/
theorem entriesAlike_of_not_made (hnodes : List.Forall₂ (SameButSecrets rt)
      (visibleNodes rt s.db user.group_id) (visibleNodes rt s'.db user.group_id))
    (h : ¬PageMade rt user s) : EntriesAlike rt fm s s' user := by
  cases hprepared : entriesOf rt fm s user with
  | error e => exact Or.inl (hprepared.trans (entriesOf_error_congr hnodes hprepared).symm)
  | ok prepared =>
    have hmade : ∀ node ∈ visibleNodes rt s.db user.group_id, ∃ plugin,
        ssPlugin rt (nodeColumns rt node) (dictOrEmpty (settingsOf rt node.network_settings)) =
          .ok plugin :=
      fun node hnode => entry_ok_iff.mp (mapM_isOk_iff.mp ⟨prepared, hprepared⟩ node hnode)
    refine Or.inr ⟨⟨prepared, hprepared⟩, mapM_isOk_iff.mpr fun node' hnode' => ?_, ?_⟩
    · obtain ⟨node, hnode, hsame⟩ := exists_mem_of_forall₂ hnodes hnode'
      exact entry_ok_iff.mpr (ssPlugin_of_sameButSecrets hsame ▸ hmade node hnode)
    · cases hinfo : settingInt rt s Session.fresh infoSetting 0 with
      | error e => exact ⟨e, rfl⟩
      | ok info => exact absurd ⟨hmade, info, hinfo⟩ h

/-- **Two lists of nodes that differ in secrets** make one page and one subscription of every
    client for a user exactly if the secrets are alike, or the user is sent no nodes: it is not
    available, or the page cannot be made. -/
theorem secrets_do_not_show_iff (hagree : Agree besidesNodes s s')
    (hnodes : List.Forall₂ (SameButSecrets rt) (visibleNodes rt s.db user.group_id)
      (visibleNodes rt s'.db user.group_id)) :
    SameForUser rt fm user s s' ↔ (isAvailable s.now user = true → PageMade rt user s →
      List.Forall₂ (SecretsAlike rt) (visibleNodes rt s.db user.group_id)
        (visibleNodes rt s'.db user.group_id)) := by
  constructor
  · intro hsame havailable hmade
    obtain ⟨servers, ss, hpage⟩ : ∃ servers ss,
        (getAvailableServers rt fm user).run s Session.fresh = (.ok servers, ss) :=
      hmade.served havailable
    have hanswer := hsame.1
    rw [hpage] at hanswer
    rcases hpage' : (getAvailableServers rt fm user).run s' Session.fresh with ⟨answer, ss'⟩
    rw [hpage'] at hanswer
    have hok : answer = .ok servers := hanswer
    exact alike_of_served hagree hnodes havailable hpage (hok ▸ hpage')
  · intro halike
    refine sameForUser_of_entries hagree fun havailable => ?_
    by_cases hmade : PageMade rt user s
    · exact Or.inl (entriesOf_of_alike hnodes (halike havailable hmade))
    · exact entriesAlike_of_not_made hnodes hmade

end

/-! One Reality node, with one private key or another. -/

def realityNode (private_key : String) : ServerV2Node :=
  { id := 7, group_id := .arr [.int 1], name := "n", host := "h", port := "443",
    server_port := 443, rate := "1", «show» := true, protocol := "vless", tls := 2,
    network := "tcp", tls_settings := .obj [("public_key", .str "p"),
      ("private_key", .str private_key), ("short_id", .str "0a")] }

/-- The user of `nodeUser` and the node. -/
def reality (private_key : String) : State Tbl :=
  ⟨Database.empty.apply [.put Tbl.users nodeUser,
    .put Tbl.server_v2node (realityNode private_key)], 1700000100⟩

theorem reality_agree (private_key private_key' : String) :
    Agree besidesNodes (reality private_key) (reality private_key') where
  tables t ht := by
    have hkey : ∀ key, (reality key).db t = Database.empty.apply [.put Tbl.users nodeUser] t :=
      fun key => DB.write_other (w := .put Tbl.server_v2node (realityNode key)) _ (Ne.symm ht)
    rw [hkey, hkey]
  now := rfl

/-- Two keys are no public difference. -/
theorem realityNode_same :
    SameButSecrets Utc.bare (realityNode "secret") (realityNode "other") where
  columns := rfl
  tls := rfl
  encryption := rfl

/-- The group of the user is shown the node. -/
theorem visibleNodes_of_reality (private_key : String) :
    visibleNodes Utc.bare (reality private_key).db (some 1) = [realityNode private_key] := by
  have hrows : ((reality private_key).db .server_v2node).rows.filter
      (fun n : ServerV2Node => n.show) = [realityNode private_key] := rfl
  have hgroup : ServerV2NodeRepository.groupContains Utc.bare
      (realityNode private_key).group_id 1 = true := rfl
  unfold visibleNodes
  dsimp only
  rw [hrows, List.mergeSort_singleton]
  refine List.filter_eq_self.mpr fun node hnode => ?_
  rw [List.mem_singleton.mp hnode]
  exact hgroup

theorem visibleNodes_reality : List.Forall₂ (SameButSecrets Utc.bare)
    (visibleNodes Utc.bare (reality "secret").db (some 1))
    (visibleNodes Utc.bare (reality "other").db (some 1)) := by
  rw [visibleNodes_of_reality, visibleNodes_of_reality]
  exact .cons realityNode_same .nil

/-- The TLS settings on the page of a user. -/
def shownSettings (private_key : String) : Except PyExc (List Json) :=
  ((getAvailableServers Utc.bare tagFormats nodeUser).run (reality private_key)
    Session.fresh).1.map fun servers => servers.map fun server => dictGet server "tls_settings"

/-- **The page of a user shows the private key of a Reality node.** -/
theorem private_key_delivered :
    SameButSecrets Utc.bare (realityNode "secret") (realityNode "other") ∧
    shownSettings "secret" = .ok [.obj [("public_key", .str "p"), ("private_key", .str "secret"),
      ("short_id", .str "0a")]] ∧
    shownSettings "other" = .ok [.obj [("public_key", .str "p"), ("private_key", .str "other"),
      ("short_id", .str "0a")]] := by
  refine ⟨realityNode_same, ?_⟩
  decide +kernel

def bannedUser : User := { nodeUser with banned := true }

/-- The key of the one list is not that of the other. -/
theorem not_secretsAlike_reality : ¬List.Forall₂ (SecretsAlike Utc.bare)
    (visibleNodes Utc.bare (reality "secret").db (some 1))
    (visibleNodes Utc.bare (reality "other").db (some 1)) := by
  rw [visibleNodes_of_reality, visibleNodes_of_reality]
  rintro (_ | ⟨⟨htls, -⟩, -⟩)
  revert htls
  decide

/-- A banned user is sent nothing of either list, and a user who is served can tell them apart. -/
theorem node_secrets_hidden_banned :
    ((getAvailableServers Utc.bare tagFormats bannedUser).run (reality "other")
      Session.fresh).1 = .ok [] ∧
    ∃ servers ss, (getAvailableServers Utc.bare tagFormats nodeUser).run (reality "secret")
        Session.fresh = (.ok servers, ss) ∧
      ¬(((getAvailableServers Utc.bare tagFormats nodeUser).run (reality "other")
          Session.fresh).1 = .ok servers ∧
        ∀ flag token_bytes,
          ((renderSubscription Utc.bare tagFormats nodeUser flag token_bytes).run (reality "other")
              Session.fresh).1 =
            ((renderSubscription Utc.bare tagFormats nodeUser flag token_bytes).run
              (reality "secret") Session.fresh).1) := by
  constructor
  · have hpage : (getAvailableServers Utc.bare tagFormats bannedUser).run (reality "secret")
        Session.fresh = (.ok [], Session.fresh) := rfl
    have hsame := (node_secrets_hidden_iff (reality_agree "secret" "other") visibleNodes_reality
      hpage).mpr fun havailable => by
        exact absurd havailable (by decide)
    exact hsame.1
  · have hserved : ((getAvailableServers Utc.bare tagFormats nodeUser).run (reality "secret")
        Session.fresh).1.isOk = true := by decide +kernel
    rcases hpage : (getAvailableServers Utc.bare tagFormats nodeUser).run (reality "secret")
      Session.fresh with ⟨e | servers, ss⟩
    · rw [hpage] at hserved
      cases hserved
    · refine ⟨servers, ss, rfl, fun hsame => not_secretsAlike_reality ?_⟩
      exact (node_secrets_hidden_iff (reality_agree "secret" "other") visibleNodes_reality
        hpage).mp hsame (by decide)

/-- The setting of the entries in front is its default. -/
theorem pageMade_reality : PageMade Utc.bare nodeUser (reality "secret") where
  entries node hnode := by
    rw [show nodeUser.group_id = some 1 from rfl, visibleNodes_of_reality,
      List.mem_singleton] at hnode
    rw [hnode]
    exact ⟨"", rfl⟩
  info := ⟨0, rfl⟩

/-- The user of the node can tell the two keys apart, and a banned user cannot. -/
theorem secrets_do_not_show_reality :
    ¬SameForUser Utc.bare tagFormats nodeUser (reality "secret") (reality "other") ∧
      SameForUser Utc.bare tagFormats bannedUser (reality "secret") (reality "other") := by
  constructor
  · intro hsame
    exact not_secretsAlike_reality ((secrets_do_not_show_iff (reality_agree "secret" "other")
      visibleNodes_reality).mp hsame (by decide) pageMade_reality)
  · exact (secrets_do_not_show_iff (reality_agree "secret" "other") visibleNodes_reality).mpr
      fun havailable => absurd havailable (by decide)

/-- **Two lists that differ in one private key** are told apart by the page of their user. -/
theorem private_key_shows :
    Agree besidesNodes (reality "secret") (reality "other") ∧
    List.Forall₂ (SameButSecrets Utc.bare)
      (visibleNodes Utc.bare (reality "secret").db nodeUser.group_id)
      (visibleNodes Utc.bare (reality "other").db nodeUser.group_id) ∧
    ((getAvailableServers Utc.bare tagFormats nodeUser).run (reality "other")
        Session.fresh).1 ≠
      ((getAvailableServers Utc.bare tagFormats nodeUser).run (reality "secret")
        Session.fresh).1 := by
  refine ⟨reality_agree "secret" "other", visibleNodes_reality, fun hsame => ?_⟩
  obtain ⟨-, hsecret, hother⟩ := private_key_delivered
  have hshown : shownSettings "other" = shownSettings "secret" :=
    congrArg (fun answer => answer.map fun servers =>
      servers.map fun server => dictGet server "tls_settings") hsame
  rw [hsecret, hother] at hshown
  revert hshown
  decide

end SubscribeService

end PyBoard
