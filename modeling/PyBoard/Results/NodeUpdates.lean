/-
  PyBoard.Results.NodeUpdates — what a change of a node leaves as it was.

  Every item of the normalized request is assigned to its column, so a column keeps
  its value exactly when normalization does not add it.  It adds the two bandwidth
  limits to every request that leaves them out, a cipher to a request that names
  shadowsocks without one, and fresh Reality keys to a request for Reality without
  settings.

  Main results:
    * `setattrs_columns` — the columns after the assignments.
    * `normalizeNode_frame` — what normalization may add.
    * `node_update_keeps_iff`.
-/
import PyBoard.Services.ServerAdmin
import PyBoard.Specs.Instant
import PyBoard.Python.Utc

namespace PyBoard

open Relational

variable {rt : Runtime} {fm : Formats}

/-! ## §1. Assignments to a dict. -/

/-- What a dict holds after an update. -/
theorem dictGet_dictUpdate (d items : JsonDict) (k : String) :
    dictGet (dictUpdate d items) k =
      if ServerAdminService.isSet items k then dictGet items k else dictGet d k := by
  unfold dictUpdate
  induction items using List.reverseRecOn with
  | nil => rfl
  | append_singleton items f ih =>
      rw [List.foldl_append, List.foldl_cons, List.foldl_nil, dictGet_dictSet, ih]
      have hlast : dictGet (items ++ [f]) k = if k = f.1 then f.2 else dictGet items k := by
        unfold dictGet Json.lookup
        rw [List.reverse_append, List.reverse_singleton, List.singleton_append, List.find?_cons]
        by_cases hk : k = f.1
        · rw [if_pos hk, decide_eq_true hk.symm]
          rfl
        · rw [if_neg hk, decide_eq_false (Ne.symm hk)]
      rw [hlast]
      unfold ServerAdminService.isSet
      rw [List.any_append]
      by_cases hk : k = f.1
      · simp [hk]
      · have hf : decide (f.1 = k) = false := decide_eq_false (Ne.symm hk)
        rw [if_neg hk, List.any_cons, List.any_nil, hf, Bool.or_false, Bool.or_false]
        simp only [hk, if_false]

/-! ## §2. Assignments to a node. -/

/-! A column that accepts a value holds it. -/

section

variable {node' : ServerV2Node} {length : Nat} {value : Json}

theorem textColumn_ok {s : String} (h : textColumn length value = .ok s) : value = .str s := by
  unfold textColumn at h
  split at h
  · split at h
    · cases h
      rfl
    · cases h
  · cases h

theorem textColumn_set {f : String → ServerV2Node}
    (h : (textColumn length value).map f = .ok node') :
    ∃ v, value = .str v ∧ node' = f v := by
  cases hv : textColumn length value with
  | error e =>
      rw [hv] at h
      cases h
  | ok v =>
      rw [hv] at h
      cases h
      exact ⟨v, textColumn_ok hv, rfl⟩

theorem optTextColumn_set {f : Option String → ServerV2Node}
    (h : (optTextColumn length value).map f = .ok node') :
    ∃ v, value = .ofOption .str v ∧ node' = f v := by
  unfold optTextColumn at h
  split at h
  · cases h
    exact ⟨none, rfl, rfl⟩
  · cases hv : textColumn length value with
    | error e =>
        rw [hv] at h
        cases h
    | ok v =>
        rw [hv] at h
        cases h
        exact ⟨some v, textColumn_ok hv, rfl⟩

theorem intColumn_ok {i : Int} (h : intColumn value = .ok i) : value = .int i := by
  unfold intColumn at h
  split at h
  · split at h
    · cases h
      rfl
    · cases h
  · cases h

theorem intColumn_set {f : Int → ServerV2Node} (h : (intColumn value).map f = .ok node') :
    ∃ v, value = .int v ∧ node' = f v := by
  cases hv : intColumn value with
  | error e =>
      rw [hv] at h
      cases h
  | ok v =>
      rw [hv] at h
      cases h
      exact ⟨v, intColumn_ok hv, rfl⟩

theorem optIntColumn_set {f : Option Int → ServerV2Node}
    (h : (optIntColumn value).map f = .ok node') :
    ∃ v, value = .ofOption .int v ∧ node' = f v := by
  unfold optIntColumn at h
  split at h
  · cases h
    exact ⟨none, rfl, rfl⟩
  · cases hv : intColumn value with
    | error e =>
        rw [hv] at h
        cases h
    | ok v =>
        rw [hv] at h
        cases h
        exact ⟨some v, intColumn_ok hv, rfl⟩

theorem boolColumn_set {f : Bool → ServerV2Node} (h : (boolColumn value).map f = .ok node') :
    ∃ v, value = .bool v ∧ node' = f v := by
  unfold boolColumn at h
  split at h
  · cases h
    exact ⟨_, rfl, rfl⟩
  · cases h

end

/-- One assignment is one assignment to the dict of the columns, and never to the key. -/
theorem setattr_columns {node node' : ServerV2Node} {key : String} {value : Json}
    (h : node.setattr key value = .ok node') :
    node'.columns = dictSet node.columns key value ∧ node'.id = node.id := by
  unfold ServerV2Node.setattr at h
  split at h
  -- one case for each column, by its type
  all_goals
    first
    | (cases h; done)
    | (cases h; exact ⟨rfl, rfl⟩)
    | (obtain ⟨v, rfl, rfl⟩ := textColumn_set h; exact ⟨rfl, rfl⟩)
    | (obtain ⟨v, rfl, rfl⟩ := optTextColumn_set h; exact ⟨rfl, rfl⟩)
    | (obtain ⟨v, rfl, rfl⟩ := intColumn_set h; exact ⟨rfl, rfl⟩)
    | (obtain ⟨v, rfl, rfl⟩ := optIntColumn_set h; exact ⟨rfl, rfl⟩)
    | (obtain ⟨v, rfl, rfl⟩ := boolColumn_set h; exact ⟨rfl, rfl⟩)

/-- The columns after the assignments of a request. -/
theorem setattrs_columns {node node' : ServerV2Node} {payload : JsonDict}
    (h : node.setattrs payload = .ok node') :
    node'.columns = dictUpdate node.columns payload ∧ node'.id = node.id := by
  unfold ServerV2Node.setattrs at h
  unfold dictUpdate
  induction payload generalizing node with
  | nil =>
      cases h
      exact ⟨rfl, rfl⟩
  | cons f payload ih =>
      rw [List.foldlM_cons] at h
      obtain ⟨next, hnext, h⟩ := except_bind_ok h
      obtain ⟨hcolumns, hid⟩ := setattr_columns hnext
      obtain ⟨hcolumns', hid'⟩ := ih h
      rw [List.foldl_cons, hcolumns', hcolumns]
      exact ⟨rfl, hid'.trans hid⟩

namespace ServerAdminService

/-! ## §3. Normalization. -/

@[simp]
theorem isSet_dictSet (d : JsonDict) (k k' : String) (value : Json) :
    isSet (dictSet d k value) k' = (decide (k' = k) || isSet d k') := by
  unfold isSet dictSet
  split
  · next hany =>
    rw [List.any_map]
    by_cases hk : k' = k
    · -- the item that is replaced is under the key
      rw [decide_eq_true hk, Bool.true_or, hk, ← hany]
      congr 1
      funext f
      simp only [Function.comp]
      split
      · next hf => simp [hf]
      · rfl
    · rw [decide_eq_false hk, Bool.false_or]
      congr 1
      funext f
      simp only [Function.comp]
      split
      · next hf => simp [hf]
      · rfl
  · rw [List.any_append, List.any_cons, List.any_nil, Bool.or_false, Bool.or_comm]
    congr 1
    exact decide_eq_decide.mpr ⟨Eq.symm, Eq.symm⟩

theorem isSet_dictSet_same (d : JsonDict) (k : String) (value : Json) :
    isSet (dictSet d k value) k = true := by
  rw [isSet_dictSet, decide_eq_true rfl, Bool.true_or]

/-- A key that is not set has no value. -/
theorem dictGet_of_not_isSet {d : JsonDict} {k : String} (h : isSet d k = false) :
    dictGet d k = .null := by
  have hnone : d.reverse.find? (fun f => f.1 = k) = none := by
    rw [List.find?_eq_none]
    intro f hf
    have hall := List.any_eq_false.mp h f (List.mem_reverse.mp hf)
    exact hall
  unfold dictGet Json.lookup
  rw [hnone]
  rfl

/-- Nothing but some keys is changed. -/
def Frame (keys : List String) (d d' : JsonDict) : Prop :=
  ∀ k ∉ keys, isSet d' k = isSet d k ∧ dictGet d' k = dictGet d k

theorem Frame.refl (keys : List String) (d : JsonDict) : Frame keys d d :=
  fun _ _ => ⟨rfl, rfl⟩

theorem Frame.trans {keys keys' : List String} {d d' d'' : JsonDict} (h : Frame keys d d')
    (h' : Frame keys' d' d'') : Frame (keys ++ keys') d d'' := by
  intro k hk
  rw [List.mem_append, not_or] at hk
  obtain ⟨hset, hget⟩ := h k hk.1
  obtain ⟨hset', hget'⟩ := h' k hk.2
  exact ⟨hset'.trans hset, hget'.trans hget⟩

theorem frame_dictSet (d : JsonDict) (k : String) (value : Json) :
    Frame [k] d (dictSet d k value) := by
  intro k' hk'
  have hne : k' ≠ k := fun h => hk' (List.mem_singleton.mpr h)
  rw [isSet_dictSet, decide_eq_false hne, Bool.false_or]
  exact ⟨rfl, dictGet_dictSet_of_ne d value hne⟩

/-! One step after the other. -/

section

variable (d : JsonDict)

theorem forceTls_frame : Frame ["tls"] d (forceTls d) := by
  unfold forceTls
  dsimp only
  split
  · exact frame_dictSet d "tls" _
  · exact Frame.refl _ d

/-- TLS that the request leaves out is forced by the protocol alone. -/
theorem forceTls_isSet (hset : isSet d "tls" = false)
    (hprotocol : forcesTls (dictGet d "protocol") = false) : forceTls d = d := by
  unfold forceTls
  dsimp only
  rw [dictGet_of_not_isSet hset, hprotocol]
  simp

theorem forceTls_value (hprotocol : forcesTls (dictGet d "protocol") = false) :
    dictGet (forceTls d) "tls" = .int 2 ↔ dictGet d "tls" = .int 2 := by
  unfold forceTls
  dsimp only
  rw [hprotocol]
  split
  · next h =>
    -- one is set in the place of zero
    have hzero : dictGet d "tls" = .int 0 := by simpa using (h.resolve_left (by simp)).2
    rw [dictGet_dictSet_same, hzero]
    decide
  · rfl

theorem forceTls_forced (hprotocol : forcesTls (dictGet d "protocol") = true) :
    dictGet (forceTls d) "tls" = .int 1 := by
  unfold forceTls
  dsimp only
  rw [if_pos (Or.inl hprotocol), dictGet_dictSet_same]

theorem defaultCipher_frame : Frame ["cipher"] d (defaultCipher d) := by
  unfold defaultCipher
  split
  · exact frame_dictSet d "cipher" _
  · exact Frame.refl _ d

/-- A field is dumped where it stands. -/
theorem dumpField_frame (field : String) :
    Frame [field] d (dumpField rt d field) ∧
      ∀ k, isSet (dumpField rt d field) k = isSet d k := by
  unfold dumpField
  split
  · next hset =>
    refine ⟨frame_dictSet d field _, ?_⟩
    intro k
    rw [isSet_dictSet]
    by_cases hk : k = field
    · rw [hk, hset, Bool.or_true]
    · rw [decide_eq_false hk, Bool.false_or]
  · exact ⟨Frame.refl _ d, fun _ => rfl⟩

theorem dumpFields_frame (fields : List String) :
    Frame fields d (fields.foldl (dumpField rt) d) ∧
      ∀ k, isSet (fields.foldl (dumpField rt) d) k = isSet d k := by
  induction fields generalizing d with
  | nil => exact ⟨Frame.refl _ d, fun _ => rfl⟩
  | cons field fields ih =>
      obtain ⟨hframe, hset⟩ := @dumpField_frame rt d field
      obtain ⟨hframe', hset'⟩ := ih (dumpField rt d field)
      exact ⟨hframe.trans hframe', fun k => (hset' k).trans (hset k)⟩

end

theorem dumpObject_frame {d d' : JsonDict} {field : String} (h : dumpObject rt d field = .ok d') :
    Frame [field] d d' ∧ ∀ k, isSet d' k = isSet d k := by
  unfold dumpObject at h
  split at h
  · next hset =>
    cases hv : jsonObjectDump rt (dictGet d field) field with
    | error e =>
        rw [hv] at h
        cases h
    | ok value =>
        rw [hv] at h
        cases h
        refine ⟨frame_dictSet d field value, ?_⟩
        intro k
        rw [isSet_dictSet]
        by_cases hk : k = field
        · rw [hk, hset, Bool.or_true]
        · rw [decide_eq_false hk, Bool.false_or]
  · cases h
    exact ⟨Frame.refl _ d, fun _ => rfl⟩

theorem dumpObjects_frame {d d' : JsonDict} {fields : List String}
    (h : fields.foldlM (dumpObject rt) d = .ok d') :
    Frame fields d d' ∧ ∀ k, isSet d' k = isSet d k := by
  induction fields generalizing d with
  | nil =>
      cases h
      exact ⟨Frame.refl _ _, fun _ => rfl⟩
  | cons field fields ih =>
      rw [List.foldlM_cons] at h
      obtain ⟨next, hnext, h⟩ := except_bind_ok h
      obtain ⟨hframe, hset⟩ := dumpObject_frame hnext
      obtain ⟨hframe', hset'⟩ := ih h
      exact ⟨hframe.trans hframe', fun k => (hset' k).trans (hset k)⟩

section

variable (d : JsonDict)

/-- Reality is completed in its settings, and nothing else has any. -/
theorem completeReality_ok {secrets : NodeSecrets} {d' : JsonDict}
    (h : completeReality rt fm secrets d = .ok d') :
    Frame ["tls_settings"] d d' ∧
      (dictGet d "tls" = .int 2 → ∃ settings, realitySettings fm secrets (dictOrEmpty
          ((jsonLoad rt (dictGet d "tls_settings")).or (.obj []))) = .ok settings ∧
        d' = dictSet d "tls_settings" (.obj settings)) ∧
      (dictGet d "tls" ≠ .int 2 → d' = d) := by
  unfold completeReality at h
  split at h
  · next htls =>
    cases hv : realitySettings fm secrets (dictOrEmpty
        ((jsonLoad rt (dictGet d "tls_settings")).or (.obj []))) with
    | error e =>
        rw [hv] at h
        cases h
    | ok settings =>
        rw [hv] at h
        cases h
        exact ⟨frame_dictSet d _ _, fun _ => ⟨settings, rfl, rfl⟩, fun hne => absurd htls hne⟩
  · next htls =>
    cases h
    exact ⟨Frame.refl _ d, fun h => absurd h htls, fun _ => rfl⟩

theorem clearFlow_frame : Frame ["flow"] d (clearFlow d) := by
  unfold clearFlow
  split
  · exact frame_dictSet d "flow" _
  · exact Frame.refl _ d

theorem fillObfsPassword_frame (secrets : NodeSecrets) :
    Frame ["obfs_password"] d (fillObfsPassword secrets d) := by
  unfold fillObfsPassword
  dsimp only
  intro k hk
  have hne : k ≠ "obfs_password" := fun h => hk (List.mem_singleton.mpr h)
  split <;> split <;>
    simp only [isSet_dictSet, hne, decide_false, Bool.false_or,
      dictGet_dictSet_of_ne _ _ hne, and_self]

/-- Without `obfs` there is no password to fill in. -/
theorem fillObfsPassword_of_not_isSet (secrets : NodeSecrets) (h : isSet d "obfs" = false) :
    fillObfsPassword secrets d = d := by
  unfold fillObfsPassword
  dsimp only
  rw [dictGet_of_not_isSet h]
  simp [Json.truthy, h]

theorem setDefault_frame (k : String) (value : Json) : Frame [k] d (setDefault d k value) := by
  unfold setDefault
  split
  · exact Frame.refl _ d
  · next hset =>
    have happend : d ++ [(k, value)] = dictSet d k value := by
      unfold dictSet
      rw [if_neg]
      exact hset
    rw [happend]
    exact frame_dictSet d k value

/-- A default stands under its key. -/
theorem setDefault_value {k : String} (value : Json) (h : isSet d k = false) :
    isSet (setDefault d k value) k = true ∧ dictGet (setDefault d k value) k = value := by
  have happend : setDefault d k value = dictSet d k value := by
    unfold setDefault dictSet
    rw [if_neg (by rw [h]; decide), if_neg]
    unfold isSet at h
    rw [h]
    decide
  rw [happend, isSet_dictSet, dictGet_dictSet_same]
  simp

end

/-- Does a request ask for Reality? -/
def asksReality (data : JsonDict) : Bool :=
  dictGet data "tls" = .int 2 && !forcesTls (dictGet data "protocol")

theorem forceTls_reality (data : JsonDict) :
    dictGet (forceTls data) "tls" = .int 2 ↔ asksReality data = true := by
  unfold asksReality
  cases hforces : forcesTls (dictGet data "protocol") with
  | true =>
      rw [forceTls_forced data hforces]
      simp
  | false =>
      rw [forceTls_value data hforces]
      simp

/-- What normalization has made of the request before the flow, the password and the
    bandwidth. -/
structure Completed (fm : Formats) (secrets : NodeSecrets) (data completed : JsonDict) : Prop where
  frame : ∀ k ∉ ["tls", "cipher", "tls_settings"], isSet completed k = isSet data k
  network : dictGet completed "network" = dictGet data "network"
  tls : isSet data "tls" = false → forcesTls (dictGet data "protocol") = false →
    isSet completed "tls" = false
  cipher : isSet data "cipher" = false →
    isSet completed "cipher" = (dictGet data "protocol").isText "shadowsocks"
  cipher_value : isSet data "cipher" = false → (dictGet data "protocol").isText "shadowsocks" →
    dictGet completed "cipher" = .str "aes-128-gcm"
  plain : isSet data "tls_settings" = false → asksReality data = false →
    isSet completed "tls_settings" = false
  reality : isSet data "tls_settings" = false → asksReality data = true →
    ∃ settings, realitySettings fm secrets [] = .ok settings ∧
      isSet completed "tls_settings" = true ∧
      dictGet completed "tls_settings" = .obj settings

/-- The parts of a normalization that returns. -/
theorem normalizeNode_ok {secrets : NodeSecrets} {data payload : JsonDict}
    (h : normalizeNode rt fm secrets data false = .ok payload) :
    ∃ completed, Completed fm secrets data completed ∧
      payload = setDefault (setDefault (fillObfsPassword secrets (clearFlow completed))
        "up_mbps" (.int 0)) "down_mbps" (.int 0) := by
  unfold normalizeNode at h
  dsimp only at h
  obtain ⟨_, -, h⟩ := except_bind_ok h
  obtain ⟨dumped, hdumped, h⟩ := except_bind_ok h
  obtain ⟨completed, hcompleted, h⟩ := except_bind_ok h
  refine ⟨completed, ?_, (Except.ok.inj h).symm⟩
  -- one frame after the other
  have hforce := forceTls_frame data
  have hcipher := defaultCipher_frame (forceTls data)
  obtain ⟨hlists, hlists_set⟩ := @dumpFields_frame rt (defaultCipher (forceTls data))
    ["group_id", "route_id", "tags", "padding_scheme"]
  obtain ⟨hobjects, hobjects_set⟩ := dumpObjects_frame hdumped
  obtain ⟨hreality, hasks, hplain⟩ := completeReality_ok dumped hcompleted
  have hdump_set : ∀ k, isSet dumped k = isSet (defaultCipher (forceTls data)) k :=
    fun k => (hobjects_set k).trans (hlists_set k)
  have htls : dictGet dumped "tls" = dictGet (forceTls data) "tls" := by
    rw [(hobjects "tls" (by decide)).2, (hlists "tls" (by decide)).2, (hcipher "tls" (by decide)).2]
  have hprotocol : dictGet (forceTls data) "protocol" = dictGet data "protocol" :=
    (hforce "protocol" (by decide)).2
  have hcipher_set : isSet (forceTls data) "cipher" = isSet data "cipher" :=
    (hforce "cipher" (by decide)).1
  have hdefault : isSet data "cipher" = false → defaultCipher (forceTls data) =
      if (dictGet data "protocol").isText "shadowsocks" then
        dictSet (forceTls data) "cipher" (.str "aes-128-gcm")
      else forceTls data := by
    intro hset
    unfold defaultCipher
    rw [hprotocol, dictGet_of_not_isSet (hcipher_set.trans hset)]
    simp [Json.truthy]
  exact {
    frame := by
      intro k hk
      simp only [List.mem_cons, List.not_mem_nil, or_false, not_or] at hk
      obtain ⟨hk₁, hk₂, hk₃⟩ := hk
      rw [(hreality k (by simpa using hk₃)).1, hdump_set, (hcipher k (by simpa using hk₂)).1,
        (hforce k (by simpa using hk₁)).1]
    network := by
      rw [(hreality "network" (by decide)).2, (hobjects "network" (by decide)).2,
        (hlists "network" (by decide)).2, (hcipher "network" (by decide)).2,
        (hforce "network" (by decide)).2]
    tls := by
      intro hset hforces
      rw [(hreality "tls" (by decide)).1, hdump_set, (hcipher "tls" (by decide)).1,
        forceTls_isSet data hset hforces, hset]
    cipher := by
      intro hset
      rw [(hreality "cipher" (by decide)).1, hdump_set, hdefault hset]
      split
      · next hss => rw [isSet_dictSet_same, hss]
      · next hss =>
        rw [hcipher_set, hset]
        exact (Bool.eq_false_iff.mpr hss).symm
    cipher_value := by
      intro hset hss
      rw [(hreality "cipher" (by decide)).2, (hobjects "cipher" (by decide)).2,
        (hlists "cipher" (by decide)).2, hdefault hset, if_pos hss, dictGet_dictSet_same]
    plain := by
      intro hset hasks
      have hne : dictGet dumped "tls" ≠ .int 2 := by
        intro h2
        rw [htls, forceTls_reality, hasks] at h2
        cases h2
      rw [hplain hne, hdump_set, (hcipher "tls_settings" (by decide)).1,
        (hforce "tls_settings" (by decide)).1, hset]
    reality := by
      intro hset hreal
      obtain ⟨settings, hsettings, hcompleted⟩ :=
        hasks (htls.trans ((forceTls_reality data).mpr hreal))
      have hdumped_set : isSet dumped "tls_settings" = false := by
        rw [hdump_set, (hcipher "tls_settings" (by decide)).1,
          (hforce "tls_settings" (by decide)).1, hset]
      rw [dictGet_of_not_isSet hdumped_set] at hsettings
      refine ⟨settings, hsettings, ?_, ?_⟩
      · rw [hcompleted, isSet_dictSet_same]
      · rw [hcompleted, dictGet_dictSet_same] }

/-! ## §4. What a request adds to its own columns. -/

/-- The columns that a request may change without naming them: TLS when the protocol forces
    it, the flow with another network, the password with `obfs`. -/
def Excepted (data : JsonDict) (column : String) : Prop :=
  (column = "tls" ∧ forcesTls (dictGet data "protocol") = true) ∨
    (column = "flow" ∧ otherNetwork (dictGet data "network") = true) ∨
    (column = "obfs_password" ∧ isSet data "obfs" = true)

/-- The columns that normalization adds besides. -/
def Added (data : JsonDict) (column : String) : Prop :=
  column = "up_mbps" ∨ column = "down_mbps" ∨
    (column = "cipher" ∧ (dictGet data "protocol").isText "shadowsocks" = true) ∨
    (column = "tls_settings" ∧ asksReality data = true)

/-- Before the bandwidth, a column that is not excepted is set by its own step only. -/
theorem isSet_filled {secrets : NodeSecrets} {data completed : JsonDict} {column : String}
    (hc : Completed fm secrets data completed) (hexc : ¬ Excepted data column) :
    isSet (fillObfsPassword secrets (clearFlow completed)) column = isSet completed column := by
  have hobfs : isSet (clearFlow completed) "obfs" = isSet data "obfs" := by
    rw [(clearFlow_frame completed "obfs" (by decide)).1, hc.frame "obfs" (by decide)]
  by_cases hpassword : column = "obfs_password"
  · have hnot : isSet data "obfs" = false := by
      rw [Bool.eq_false_iff]
      exact fun h => hexc (Or.inr (Or.inr ⟨hpassword, h⟩))
    rw [fillObfsPassword_of_not_isSet _ _ (hobfs.trans hnot), hpassword]
    exact (clearFlow_frame completed "obfs_password" (by decide)).1
  · rw [(fillObfsPassword_frame (clearFlow completed) secrets column (by simpa using hpassword)).1]
    by_cases hflow : column = "flow"
    · have hnot : otherNetwork (dictGet completed "network") = false := by
        rw [hc.network, Bool.eq_false_iff]
        exact fun h => hexc (Or.inr (Or.inl ⟨hflow, h⟩))
      unfold clearFlow
      rw [hnot]
      simp
    · exact (clearFlow_frame completed column (by simpa using hflow)).1

/-- **What normalization may add**: of the columns that a request leaves out, it sets those
    that are excepted and those of `Added`. -/
theorem normalizeNode_frame {secrets : NodeSecrets} {data payload : JsonDict} {column : String}
    (h : normalizeNode rt fm secrets data false = .ok payload)
    (hset : isSet data column = false) (hexc : ¬ Excepted data column)
    (hadded : ¬ Added data column) : isSet payload column = false := by
  obtain ⟨completed, hc, rfl⟩ := normalizeNode_ok h
  have hup : column ≠ "up_mbps" := fun h => hadded (Or.inl h)
  have hdown : column ≠ "down_mbps" := fun h => hadded (Or.inr (Or.inl h))
  rw [(setDefault_frame _ "down_mbps" _ column (by simpa using hdown)).1,
    (setDefault_frame _ "up_mbps" _ column (by simpa using hup)).1, isSet_filled hc hexc]
  by_cases htls : column = "tls"
  · rw [htls] at hset ⊢
    refine hc.tls hset (Bool.eq_false_iff.mpr ?_)
    exact fun h => hexc (Or.inl ⟨htls, h⟩)
  by_cases hcipher : column = "cipher"
  · rw [hcipher] at hset ⊢
    rw [hc.cipher hset, Bool.eq_false_iff]
    exact fun h => hadded (Or.inr (Or.inr (Or.inl ⟨hcipher, h⟩)))
  by_cases hsettings : column = "tls_settings"
  · rw [hsettings] at hset ⊢
    refine hc.plain hset (Bool.eq_false_iff.mpr ?_)
    exact fun h => hadded (Or.inr (Or.inr (Or.inr ⟨hsettings, h⟩)))
  rw [hc.frame column (by simp [htls, hcipher, hsettings]), hset]

/-- The value of a column that normalization adds. -/
theorem normalizeNode_added {secrets : NodeSecrets} {data payload : JsonDict}
    (h : normalizeNode rt fm secrets data false = .ok payload) :
    (isSet data "up_mbps" = false →
      isSet payload "up_mbps" = true ∧ dictGet payload "up_mbps" = .int 0) ∧
    (isSet data "down_mbps" = false →
      isSet payload "down_mbps" = true ∧ dictGet payload "down_mbps" = .int 0) ∧
    (isSet data "cipher" = false → (dictGet data "protocol").isText "shadowsocks" = true →
      isSet payload "cipher" = true ∧ dictGet payload "cipher" = .str "aes-128-gcm") ∧
    (isSet data "tls_settings" = false → asksReality data = true →
      ∃ settings, realitySettings fm secrets [] = .ok settings ∧
        isSet payload "tls_settings" = true ∧ dictGet payload "tls_settings" = .obj settings) := by
  obtain ⟨completed, hc, rfl⟩ := normalizeNode_ok h
  -- the last steps leave every other column alone
  have hlast : ∀ k ∉ ["flow", "obfs_password", "up_mbps", "down_mbps"],
      isSet (setDefault (setDefault (fillObfsPassword secrets (clearFlow completed))
        "up_mbps" (.int 0)) "down_mbps" (.int 0)) k = isSet completed k ∧
      dictGet (setDefault (setDefault (fillObfsPassword secrets (clearFlow completed))
        "up_mbps" (.int 0)) "down_mbps" (.int 0)) k = dictGet completed k := by
    intro k hk
    exact (((clearFlow_frame completed).trans
      (fillObfsPassword_frame (clearFlow completed) secrets)).trans
        ((setDefault_frame _ "up_mbps" _).trans (setDefault_frame _ "down_mbps" _))) k hk
  have hfilled : ∀ k, k = "up_mbps" ∨ k = "down_mbps" → isSet data k = false →
      isSet (fillObfsPassword secrets (clearFlow completed)) k = false := by
    intro k hk hset
    rw [isSet_filled hc, hc.frame k, hset]
    · rcases hk with rfl | rfl <;> decide
    · unfold Excepted
      rcases hk with rfl | rfl <;> simp
  refine ⟨?_, ?_, ?_, ?_⟩
  · intro hset
    -- the second default comes after the first one
    obtain ⟨h₁, h₂⟩ := setDefault_value (fillObfsPassword secrets (clearFlow completed)) (.int 0)
      (hfilled "up_mbps" (Or.inl rfl) hset)
    obtain ⟨h₃, h₄⟩ := setDefault_frame (setDefault (fillObfsPassword secrets
      (clearFlow completed)) "up_mbps" (.int 0)) "down_mbps" (.int 0) "up_mbps" (by decide)
    exact ⟨h₃.trans h₁, h₄.trans h₂⟩
  · intro hset
    refine setDefault_value _ (.int 0) ?_
    rw [(setDefault_frame _ "up_mbps" _ "down_mbps" (by decide)).1]
    exact hfilled "down_mbps" (Or.inr rfl) hset
  · intro hset hss
    obtain ⟨h₁, h₂⟩ := hlast "cipher" (by decide)
    rw [h₁, h₂, hc.cipher hset]
    exact ⟨hss, hc.cipher_value hset hss⟩
  · intro hset hreal
    obtain ⟨settings, hsettings, hset', hvalue⟩ := hc.reality hset hreal
    obtain ⟨h₁, h₂⟩ := hlast "tls_settings" (by decide)
    exact ⟨settings, hsettings, h₁.trans hset', h₂.trans hvalue⟩

/-! ## §5. The request. -/

/-- What a change of a stored node that is accepted leaves in its row. -/
theorem run_updateNode {secrets : NodeSecrets} {node answer : ServerV2Node}
    {data : ServerV2NodeUpdate} {s : State Tbl} {ss ss' : Session Tbl}
    (hstored : (s.view ss .server_v2node).get? node.id = some node)
    (h : (updateNode rt fm secrets node.id data).run s ss = (.ok answer, ss')) :
    ∃ payload row, normalizeNode rt fm secrets data.fields false = .ok payload ∧
      (s.view ss' .server_v2node).get? node.id = some row ∧
      row.columns = dictUpdate node.columns payload := by
  unfold updateNode at h
  obtain ⟨found, ss₁, hfound, h⟩ := Prog.run_bind_ok h
  have hget : found = some node ∧ ss₁ = ss := by
    have hrun := Prod.mk.inj hfound
    exact ⟨(Except.ok.inj hrun.1).symm.trans hstored, hrun.2.symm⟩
  rw [hget.1, hget.2] at h
  dsimp only at h
  obtain ⟨payload, hpayload, h⟩ := run_liftExcept_bind h
  obtain ⟨changed, hchanged, h⟩ := run_liftExcept_bind h
  obtain ⟨hcolumns, hid⟩ := setattrs_columns hchanged
  unfold ServerV2NodeRepository.update time at h
  by_cases hsame : node = changed
  · -- nothing to write
    simp only [hsame, ne_eq, not_true_eq_false, if_false, Prog.bind_eq, Prog.pure_eq] at h
    refine ⟨payload, node, hpayload, ?_, (congrArg _ hsame).trans hcolumns⟩
    rw [← hstored]
    obtain ⟨row, ss₂, hrow, h⟩ := Prog.run_bind_ok h
    have hss₂ : ss₂ = ss := (Prod.mk.inj hrow).2.symm
    cases row with
    | none => cases h
    | some row => rw [← (Prod.mk.inj h).2, hss₂]
  · simp only [ne_eq, hsame, not_false_eq_true, if_true, Prog.bind_eq,
      Prog.run_clock_bind] at h
    have hsave : (save .server_v2node node (changed.stamped s.now)).run s ss =
        (.ok (), ss.write (.put Tbl.server_v2node (changed.stamped s.now))) :=
      run_save hstored hid.symm
    rw [Prog.run_bind, hsave] at h
    dsimp only at h
    obtain ⟨row, ss₂, hrow, h⟩ := Prog.run_bind_ok h
    have hss₂ := (Prod.mk.inj hrow).2.symm
    have hss' : ss' = ss₂ := by
      cases row with
      | none => cases h
      | some row => exact (Prod.mk.inj h).2.symm
    refine ⟨payload, changed.stamped s.now, hpayload, ?_, hcolumns⟩
    rw [hss', hss₂]
    show (s.view (ss.write _) .server_v2node).get? node.id = _
    rw [view_write_self (t := .server_v2node), ← hid]
    exact Table.get?_put_self _ _

/-- **Nothing else is changed**: a column that the request does not name keeps its stored value,
    but for the excepted ones. -/
def NodeKept (data : ServerV2NodeUpdate) (old new : ServerV2Node) : Prop :=
  ∀ column, isSet data.fields column = false → ¬ Excepted data.fields column →
    dictGet new.columns column = dictGet old.columns column

/-- **When a request keeps what it does not name**: it names the bandwidth limits, or they are
    zero; it names the cipher with shadowsocks, or the cipher is the default one; and it names
    the settings with Reality. -/
structure KeepsUnnamed (data : ServerV2NodeUpdate) (node : ServerV2Node) : Prop where
  up_mbps : isSet data.fields "up_mbps" = false → node.up_mbps = 0
  down_mbps : isSet data.fields "down_mbps" = false → node.down_mbps = 0
  cipher : isSet data.fields "cipher" = false →
    (dictGet data.fields "protocol").isText "shadowsocks" = true →
    node.cipher = some "aes-128-gcm"
  tls_settings : isSet data.fields "tls_settings" = false → asksReality data.fields = false

/-- What the row holds in a column. -/
theorem dictGet_row {node row : ServerV2Node} {payload : JsonDict}
    (h : row.columns = dictUpdate node.columns payload) (column : String) :
    dictGet row.columns column = if isSet payload column then dictGet payload column
      else dictGet node.columns column := by
  rw [h]
  exact dictGet_dictUpdate _ _ _

theorem kept_of_keepsUnnamed {secrets : NodeSecrets} {node row : ServerV2Node}
    {data : ServerV2NodeUpdate} {payload : JsonDict} (hk : KeepsUnnamed data node)
    (hpayload : normalizeNode rt fm secrets data.fields false = .ok payload)
    (hrow : row.columns = dictUpdate node.columns payload) : NodeKept data node row := by
  intro column hset hexc
  rw [dictGet_row hrow]
  obtain ⟨hup, hdown, hcipher, -⟩ := normalizeNode_added hpayload
  by_cases hadded : Added data.fields column
  · rcases hadded with rfl | rfl | ⟨rfl, hss⟩ | ⟨rfl, hreal⟩
    · rw [if_pos (hup hset).1, (hup hset).2]
      exact (congrArg Json.int (hk.up_mbps hset)).symm
    · rw [if_pos (hdown hset).1, (hdown hset).2]
      exact (congrArg Json.int (hk.down_mbps hset)).symm
    · rw [if_pos (hcipher hset hss).1, (hcipher hset hss).2]
      exact (congrArg (Json.ofOption Json.str) (hk.cipher hset hss)).symm
    · rw [hk.tls_settings hset] at hreal
      cases hreal
  · rw [normalizeNode_frame hpayload hset hexc hadded, if_neg Bool.false_ne_true]

/-! Two draws that differ. -/

/-- Tokens of one byte. -/
def repeatedSecrets (byte : UInt8) : NodeSecrets where
  public_key := ⟨List.replicate 32 byte, List.length_replicate⟩
  private_key := ⟨List.replicate 32 byte, List.length_replicate⟩
  obfs_password := ⟨List.replicate 12 byte, List.length_replicate⟩

/-- Fresh settings hold the drawn key. -/
theorem realitySettings_public_key {secrets : NodeSecrets} {settings : JsonDict}
    (h : realitySettings fm secrets [] = .ok settings) :
    dictGet settings "public_key" = .str secrets.public_key.text := by
  have hsettings : realitySettings fm secrets [] =
      .ok [("public_key", .str secrets.public_key.text),
        ("private_key", .str secrets.private_key.text),
        ("short_id", .str (textPrefix 8 (fm.sha1_hexdigest secrets.private_key.text))),
        ("server_port", .str "443")] := rfl
  rw [hsettings] at h
  cases h
  rfl

theorem repeatedSecrets_public_key_ne :
    (repeatedSecrets 0).public_key.text ≠ (repeatedSecrets 1).public_key.text := by
  decide

/-- **A change keeps what it does not name exactly under `KeepsUnnamed`**: for a stored node
    and a request that is accepted whatever it draws. -/
theorem node_update_keeps_iff {node : ServerV2Node} {data : ServerV2NodeUpdate} {s : State Tbl}
    {ss : Session Tbl} (hstored : (s.view ss .server_v2node).get? node.id = some node)
    (haccepted : ∀ secrets, ∃ answer ss',
      (updateNode rt fm secrets node.id data).run s ss = (.ok answer, ss')) :
    (∀ secrets answer ss' row,
      (updateNode rt fm secrets node.id data).run s ss = (.ok answer, ss') →
      (s.view ss' .server_v2node).get? node.id = some row → NodeKept data node row) ↔
    KeepsUnnamed data node := by
  constructor
  · intro hkept
    -- what one draw leaves, and that it is what was stored
    have hdraw : ∀ secrets, ∃ payload,
        normalizeNode rt fm secrets data.fields false = .ok payload ∧
        ∀ column, isSet data.fields column = false → ¬ Excepted data.fields column →
          isSet payload column = true →
          dictGet payload column = dictGet node.columns column := by
      intro secrets
      obtain ⟨answer, ss', hrun⟩ := haccepted secrets
      obtain ⟨payload, row, hpayload, hrow, hcolumns⟩ := run_updateNode hstored hrun
      refine ⟨payload, hpayload, ?_⟩
      intro column hset hexc hpset
      have heq := hkept secrets answer ss' row hrun hrow column hset hexc
      rw [dictGet_row hcolumns, if_pos hpset] at heq
      exact heq
    obtain ⟨payload, hpayload, heq⟩ := hdraw (repeatedSecrets 0)
    obtain ⟨payload₁, hpayload₁, heq₁⟩ := hdraw (repeatedSecrets 1)
    obtain ⟨hup, hdown, hcipher, hreality⟩ := normalizeNode_added hpayload
    refine ⟨?_, ?_, ?_, ?_⟩
    · intro hset
      have hvalue := heq "up_mbps" hset (by simp [Excepted]) (hup hset).1
      rw [(hup hset).2] at hvalue
      exact (Json.int.inj hvalue).symm
    · intro hset
      have hvalue := heq "down_mbps" hset (by simp [Excepted]) (hdown hset).1
      rw [(hdown hset).2] at hvalue
      exact (Json.int.inj hvalue).symm
    · intro hset hss
      have hvalue := heq "cipher" hset (by simp [Excepted]) (hcipher hset hss).1
      rw [(hcipher hset hss).2] at hvalue
      have hcolumn : dictGet node.columns "cipher" = .ofOption .str node.cipher := rfl
      rw [hcolumn] at hvalue
      cases hnode : node.cipher with
      | none =>
          rw [hnode] at hvalue
          cases hvalue
      | some cipher =>
          rw [hnode] at hvalue
          rw [← Json.str.inj hvalue]
    · intro hset
      rw [Bool.eq_false_iff]
      intro hreal
      -- the stored settings would be those of two draws
      obtain ⟨settings, hsettings, hpset, hobj⟩ := hreality hset hreal
      obtain ⟨settings₁, hsettings₁, hpset₁, hobj₁⟩ :=
        (normalizeNode_added hpayload₁).2.2.2 hset hreal
      have hvalue := heq "tls_settings" hset (by simp [Excepted]) hpset
      have hvalue₁ := heq₁ "tls_settings" hset (by simp [Excepted]) hpset₁
      rw [hobj] at hvalue
      rw [hobj₁] at hvalue₁
      have hsame : settings = settings₁ := Json.obj.inj (hvalue.trans hvalue₁.symm)
      have hkey := realitySettings_public_key hsettings
      rw [hsame, realitySettings_public_key hsettings₁] at hkey
      exact repeatedSecrets_public_key_ne (Json.str.inj hkey).symm
  · intro hk secrets answer ss' row hrun hrow
    obtain ⟨payload, row', hpayload, hrow', hcolumns⟩ := run_updateNode hstored hrun
    rw [hrow] at hrow'
    rw [Option.some.inj hrow']
    exact kept_of_keepsUnnamed hk hpayload hcolumns

/-! ## §6. A node with bandwidth limits. -/

/-- A hysteria2 node. -/
def limitedNode (up_mbps down_mbps : Int) : ServerV2Node :=
  { id := 7, group_id := .arr [.int 1], name := "n", host := "h", port := "443",
    server_port := 443, rate := "1", «show» := true, protocol := "hysteria2", tls := 1,
    network := "tcp", up_mbps := up_mbps, down_mbps := down_mbps }

def limitedState (up_mbps down_mbps : Int) : State Tbl :=
  ⟨Database.empty.apply [.put Tbl.server_v2node (limitedNode up_mbps down_mbps)], 1700000000⟩

/-- The node is hidden and moved. -/
def hideRequest : ServerV2NodeUpdate where
  fields := [("show", .bool false), ("sort", .int 9)]
  nodup := by decide
  typed := by
    intro f hf
    rcases List.mem_cons.mp hf with rfl | hf
    · exact ⟨.bool, by decide, rfl⟩
    · rw [List.mem_singleton.mp hf]
      exact ⟨.int, by decide, rfl⟩

/-- The request on such a node. -/
def hide (up_mbps down_mbps : Int) (secrets : NodeSecrets) :
    Except PyExc ServerV2Node × Session Tbl :=
  (updateNode Utc.bare plainFormats secrets 7 hideRequest).run (limitedState up_mbps down_mbps)
    Session.fresh

/-- A node without limits keeps what the request does not name. -/
theorem node_update_keeps_unlimited : ∃ answer ss' row,
    hide 0 0 (repeatedSecrets 0) = (.ok answer, ss') ∧
      ((limitedState 0 0).view ss' .server_v2node).get? (7 : Int) = some row ∧
      NodeKept hideRequest (limitedNode 0 0) row := by
  refine ⟨_, _, _, rfl, rfl, ?_⟩
  refine (@node_update_keeps_iff Utc.bare plainFormats (limitedNode 0 0) hideRequest
    (limitedState 0 0) Session.fresh rfl fun secrets => ⟨_, _, rfl⟩).mpr ⟨?_, ?_, ?_, ?_⟩
      (repeatedSecrets 0) _ _ _ rfl rfl
  · intro _
    rfl
  · intro _
    rfl
  · intro _ h
    cases h
  · intro _
    rfl

/-- A node with limits loses them. -/
theorem hidden_node_loses_limits : ∃ answer ss' row,
    hide 100 200 (repeatedSecrets 0) = (.ok answer, ss') ∧
      ((limitedState 100 200).view ss' .server_v2node).get? (7 : Int) = some row ∧
      row.up_mbps = 0 ∧ row.down_mbps = 0 ∧ ¬ NodeKept hideRequest (limitedNode 100 200) row := by
  refine ⟨_, _, _, rfl, rfl, rfl, rfl, ?_⟩
  intro hkept
  have h := hkept "up_mbps" (by decide) (by simp [Excepted])
  have h0 : (100 : Int) = 0 := (Json.int.inj h).symm
  exact absurd h0 (by decide)

end ServerAdminService

end PyBoard
