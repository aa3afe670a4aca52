/-
  PyBoard.Specs.Alive — what one alive report does.

  `Entries` says which reports a cached document holds.  The document that `handle_alive`
  makes of it holds the new report in the place of the node's old one, and its count is
  that of the addresses it holds (`aliveDocument_ok`).

  A request relies on the documents of its own users alone.  What it leaves in the cache
  is `Stored`, which grows with each turn of its loop (`wp_handleAlive`).
-/
import Mathlib.Data.List.DropRight
import PyBoard.Services.Alive
import PyBoard.Specs.Settings

namespace PyBoard

open Relational ServerService

variable {rt : Runtime}

/-! ## §1. The name of a node. -/

/-- A digit or a sign. -/
def isNumeral (c : Char) : Bool := c.isDigit || c = '-'

theorem isNumeral_natRepr (n : Nat) : ∀ c ∈ n.repr.toList, isNumeral c = true := by
  intro c hc
  rw [Nat.toList_repr] at hc
  unfold isNumeral
  rw [Nat.isDigit_of_mem_toDigits (by decide) (by decide) hc]
  rfl

theorem isNumeral_toString (i : Int) : ∀ c ∈ (toString i).toList, isNumeral c = true := by
  intro c hc
  cases i with
  | ofNat n => exact isNumeral_natRepr n c hc
  | negSucc n =>
      have hsplit : c ∈ '-' :: (n + 1).repr.toList := by
        have htext : (toString (Int.negSucc n)).toList = ("-" ++ (n + 1).repr).toList := rfl
        rw [htext, String.toList_append] at hc
        exact hc
      rcases List.mem_cons.mp hsplit with rfl | hmem
      · rfl
      · exact isNumeral_natRepr _ c hmem

/-- A node type does not end like a number. -/
theorem last_nodeType {node_type : String} (h : node_type ∈ NODE_TYPES) :
    ∀ c ∈ node_type.toList.getLast?, isNumeral c = false := by
  intro c hc
  have hall : NODE_TYPES.all (fun t => t.toList.getLast?.all fun c => !isNumeral c) = true := by
    decide
  have hlast := List.all_eq_true.mp hall node_type h
  rw [Option.mem_def] at hc
  rw [hc] at hlast
  simpa using hlast

/-- What is left of a name when its number is taken off. -/
theorem rdropWhile_key (node : AliveNode) :
    node.key.toList.rdropWhile isNumeral = node.node_type.toList := by
  unfold AliveNode.key
  rw [String.toList_append]
  have hnumber : ∀ l l' : List Char, (∀ c ∈ l', isNumeral c = true) →
      (l ++ l').rdropWhile isNumeral = l.rdropWhile isNumeral := by
    intro l l' h
    induction l' using List.reverseRecOn with
    | nil => rw [List.append_nil]
    | append_singleton l' c ih =>
        have hc : isNumeral c = true :=
          h c (List.mem_append_right _ (List.mem_singleton_self c))
        rw [← List.append_assoc, List.rdropWhile_concat_pos _ _ _ hc]
        exact ih fun x hx => h x (List.mem_append_left _ hx)
  rw [hnumber _ _ (isNumeral_toString node.node_id)]
  refine List.rdropWhile_eq_self_iff.mpr fun hne hlast => ?_
  have := last_nodeType node.known _ (List.getLast?_eq_some_getLast hne)
  rw [this] at hlast
  cases hlast

/-- **Two nodes have two names.** -/
theorem ServerService.AliveNode.key_injective {node node' : AliveNode} (h : node.key = node'.key) :
    node = node' := by
  have htype : node.node_type = node'.node_type := by
    have heq := rdropWhile_key node
    rw [h, rdropWhile_key] at heq
    exact (String.toList_inj.mp heq).symm
  have hid : node.node_id = node'.node_id := by
    unfold AliveNode.key at h
    rw [htype] at h
    exact toString_int_injective ((String.append_right_inj _).mp h)
  cases node
  cases node'
  cases htype
  cases hid
  rfl

theorem ServerService.AliveNode.key_ne (node : AliveNode) : node.key ≠ "alive_ip" := by
  intro h
  -- the name would be the type and no number
  have htype := rdropWhile_key node
  rw [h, show "alive_ip".toList.rdropWhile isNumeral = "alive_ip".toList by decide] at htype
  have hknown := node.known
  rw [← String.toList_inj.mp htype] at hknown
  revert hknown
  decide

/-- Two users have two keys. -/
theorem aliveKey_injective {uid uid' : String} (h : aliveKey uid = aliveKey uid') :
    uid = uid' := (String.append_right_inj _).mp h

/-! ## §2. An assignment. -/

theorem mapM_eq_ok {α β : Type} {f : α → Except PyExc β} {g : α → β} {l : List α}
    (h : ∀ a ∈ l, f a = .ok (g a)) : l.mapM f = .ok (l.map g) := by
  induction l with
  | nil => rfl
  | cons a l ih =>
      rw [List.mapM_cons, h a List.mem_cons_self,
        ih fun x hx => h x (List.mem_cons_of_mem _ hx)]
      rfl

/-- A filter that keeps everything. -/
theorem filterM_eq_ok {α : Type} {p : α → Except PyExc Bool} {l : List α}
    (h : ∀ a ∈ l, p a = .ok true) : l.filterM p = .ok l := by
  have hacc : ∀ acc : List α, l.filterAuxM p acc = .ok (l.reverse ++ acc) := by
    induction l with
    | nil => exact fun acc => rfl
    | cons a l ih =>
        intro acc
        rw [List.reverse_cons, List.append_assoc]
        show (p a >>= fun b => l.filterAuxM p (cond b (a :: acc) acc)) = _
        rw [h a List.mem_cons_self]
        exact ih (fun x hx => h x (List.mem_cons_of_mem _ hx)) (a :: acc)
  show (l.filterAuxM p [] >>= fun as => Except.ok as.reverse) = _
  rw [hacc]
  show Except.ok (l.reverse ++ []).reverse = .ok l
  rw [List.append_nil, List.reverse_reverse]

/-- An assignment puts one item in the place of the others of its key. -/
theorem dictSet_perm {d : JsonDict} (hn : (d.map Prod.fst).Nodup) (k : String) (value : Json) :
    (dictSet d k value).Perm ((k, value) :: d.filter fun f => f.1 ≠ k) := by
  unfold dictSet
  split
  · next hany =>
    induction d with
    | nil => cases hany
    | cons f d ih =>
        obtain ⟨hf, hn'⟩ := List.nodup_cons.mp hn
        rw [List.map_cons, List.filter_cons]
        by_cases hk : f.1 = k
        · -- there is no other item of the key
          have hother : ∀ x ∈ d, x.1 ≠ k := fun x hx heq =>
            hf (List.mem_map.mpr ⟨x, hx, heq.trans hk.symm⟩)
          rw [if_pos hk, List.filter_eq_self.mpr fun x hx => decide_eq_true (hother x hx),
            List.map_congr_left fun x hx => if_neg (hother x hx), List.map_id']
          simp [hk]
        · have hany' : d.any (fun x => x.1 = k) = true := by simpa [hk] using hany
          rw [if_neg hk]
          simp only [ne_eq, hk, not_false_eq_true, decide_true, if_true]
          exact ((ih hn' hany').cons f).trans (List.Perm.swap _ _ _)
  · next hany =>
    have hall : ∀ x ∈ d, x.1 ≠ k := by
      intro x hx heq
      exact hany (List.any_eq_true.mpr ⟨x, hx, decide_eq_true heq⟩)
    rw [List.filter_eq_self.mpr fun x hx => decide_eq_true (hall x hx)]
    exact List.perm_append_singleton _ _

theorem nodup_dictSet {d : JsonDict} (hn : (d.map Prod.fst).Nodup) (k : String) (value : Json) :
    ((dictSet d k value).map Prod.fst).Nodup := by
  have hperm := (dictSet_perm hn k value).map Prod.fst
  refine hperm.nodup_iff.mpr ?_
  rw [List.map_cons, List.nodup_cons]
  refine ⟨fun hmem => ?_, hn.sublist (List.filter_sublist.map _)⟩
  obtain ⟨f, hf, hk⟩ := List.mem_map.mp hmem
  exact of_decide_eq_true (List.mem_filter.mp hf).2 hk

/-- The value of an item. -/
theorem lookup_of_mem {d : JsonDict} (hn : (d.map Prod.fst).Nodup) {f : String × Json}
    (hf : f ∈ d) : Json.lookup d f.1 = some f.2 := by
  unfold Json.lookup
  have hfind : d.reverse.find? (fun x => decide (x.1 = f.1)) = some f := by
    rw [← List.head?_filter]
    have hone : d.reverse.filter (fun x => decide (x.1 = f.1)) = [f] := by
      have hn' : (d.reverse.map Prod.fst).Nodup := by
        rw [List.map_reverse]
        exact List.nodup_reverse.mpr hn
      exact Table.filter_key_of_mem hn' (List.mem_reverse.mpr hf)
    rw [hone]
    rfl
  rw [hfind]
  rfl

/-! ## §3. The reports in a document. -/

/-- A node and the addresses that it reports. -/
abbrev NodeReport := AliveNode × List Json

/-- The addresses of an entry. -/
def entryIps : Json → Option (List Json)
  | .obj node_data =>
      match Json.lookup node_data "aliveips" with
      | some (.arr ips) => some ips
      | _ => none
  | _ => none

/-- The entries of a document, by the names of their nodes. -/
def reportsIn (fields : JsonDict) : List (String × List Json) :=
  fields.filterMap fun f => (entryIps f.2).map fun ips => (f.1, ips)

/-- How many addresses: all of them, or the distinct ones when `device_limit_mode` is 1. -/
def aliveCount (rt : Runtime) (mode : Int) (ips : List Json) : Int :=
  if mode = 1 then (ips.map (addressOf rt)).dedup.length else ips.length

/-- The reports of a user, with one more of a node. -/
def renew (reports : List NodeReport) (node : AliveNode) (ips : List Json) : List NodeReport :=
  (node, ips) :: reports.filter fun r => r.1 ≠ node

/-- The document holds the reports, which are at most 100 seconds younger than `start`. -/
structure Entries (start : Int) (reports : List NodeReport) (fields : JsonDict) : Prop where
  nodup : (fields.map Prod.fst).Nodup
  count : ∀ f ∈ fields, f.1 = "alive_ip" → ∃ n, f.2 = .int n
  entry : ∀ f ∈ fields, f.1 ≠ "alive_ip" →
    ∃ ips t, f.2 = aliveEntry ips t ∧ start ≤ t ∧ t ≤ start + 100
  reports : (reportsIn fields).Perm (reports.map fun r => (r.1.key, r.2))

theorem entryIps_entry (ips : List Json) (t : Int) : entryIps (aliveEntry ips t) = some ips := rfl

theorem Entries.empty (start : Int) : Entries start [] [] where
  nodup := List.nodup_nil
  count := fun f hf => by cases hf
  entry := fun f hf => by cases hf
  reports := List.Perm.nil

section

variable {start : Int} {reports : List NodeReport} {fields : JsonDict}

/-- A value is a count or an entry. -/
theorem Entries.cases (h : Entries start reports fields) {f : String × Json} (hf : f ∈ fields) :
    (∃ n, f.2 = .int n) ∨ ∃ ips t, f.2 = aliveEntry ips t := by
  by_cases hk : f.1 = "alive_ip"
  · exact Or.inl (h.count f hf hk)
  · obtain ⟨ips, t, hval, -⟩ := h.entry f hf hk
    exact Or.inr ⟨ips, t, hval⟩

/-- The entry of a node that has reported. -/
theorem Entries.lookup (h : Entries start reports fields) {node : AliveNode} {ips : List Json}
    (hr : (node, ips) ∈ reports) : ∃ t, Json.lookup fields node.key = some (aliveEntry ips t) := by
  have hmem : (node.key, ips) ∈ reportsIn fields :=
    h.reports.mem_iff.mpr (List.mem_map.mpr ⟨(node, ips), hr, rfl⟩)
  obtain ⟨f, hf, heq⟩ := List.mem_filterMap.mp hmem
  obtain ⟨ips₁, hips, heq⟩ := Option.map_eq_some_iff.mp heq
  obtain ⟨hname, rfl⟩ := Prod.mk.inj heq
  have hne : f.1 ≠ "alive_ip" := by
    rw [hname]
    exact node.key_ne
  obtain ⟨ips₂, t, hval, -⟩ := h.entry f hf hne
  rw [hval, entryIps_entry] at hips
  cases hips
  refine ⟨t, ?_⟩
  rw [← hval, ← hname]
  exact lookup_of_mem h.nodup hf

/-- An entry that is assigned takes the place of the node's old one. -/
theorem Entries.set (h : Entries start reports fields) (node : AliveNode) (ips : List Json)
    {t : Int} (ht : start ≤ t) (ht' : t ≤ start + 100) :
    Entries start (renew reports node ips) (dictSet fields node.key (aliveEntry ips t)) := by
  have hperm := dictSet_perm h.nodup node.key (aliveEntry ips t)
  have hold : ∀ f ∈ dictSet fields node.key (aliveEntry ips t),
      f = (node.key, aliveEntry ips t) ∨ f ∈ fields := by
    intro f hf
    rcases List.mem_cons.mp (hperm.mem_iff.mp hf) with heq | hmem
    · exact Or.inl heq
    · exact Or.inr (List.mem_of_mem_filter hmem)
  refine ⟨nodup_dictSet h.nodup _ _, fun f hf hk => ?_, fun f hf hk => ?_, ?_⟩
  · rcases hold f hf with rfl | hmem
    · exact absurd hk node.key_ne
    · exact h.count f hmem hk
  · rcases hold f hf with rfl | hmem
    · exact ⟨ips, t, rfl, ht, ht'⟩
    · exact h.entry f hmem hk
  · -- the others are filtered on both sides alike
    have hfilter : reportsIn (fields.filter fun f => f.1 ≠ node.key) =
        (reportsIn fields).filter fun r => r.1 ≠ node.key := by
      unfold reportsIn
      rw [List.filterMap_filter, List.filter_filterMap]
      refine List.filterMap_congr fun f _ => ?_
      by_cases hk : f.1 = node.key
      · cases entryIps f.2 <;> simp [hk, Option.filter]
      · cases entryIps f.2 <;> simp [hk, Option.filter]
    have hnames : (reports.map fun r => (r.1.key, r.2)).filter (fun r => r.1 ≠ node.key) =
        (reports.filter fun r => r.1 ≠ node).map fun r => (r.1.key, r.2) := by
      rw [List.filter_map]
      refine congrArg (List.map _) (List.filter_congr fun r _ => ?_)
      exact decide_eq_decide.mpr (not_congr ⟨AliveNode.key_injective, congrArg AliveNode.key⟩)
    have hsplit : (reportsIn (dictSet fields node.key (aliveEntry ips t))).Perm
        ((node.key, ips) :: (reportsIn fields).filter fun r => r.1 ≠ node.key) := by
      rw [← hfilter]
      exact hperm.filterMap _
    refine hsplit.trans ?_
    show List.Perm _ ((node.key, ips) :: (reports.filter fun r => r.1 ≠ node).map _)
    rw [← hnames]
    exact (h.reports.filter _).cons _

/-- The count is no entry. -/
theorem Entries.setCount (h : Entries start reports fields) (n : Int) :
    Entries start reports (dictSet fields "alive_ip" (.int n)) := by
  have hperm := dictSet_perm h.nodup "alive_ip" (.int n)
  have hold : ∀ f ∈ dictSet fields "alive_ip" (.int n), f = ("alive_ip", .int n) ∨
      f ∈ fields := by
    intro f hf
    rcases List.mem_cons.mp (hperm.mem_iff.mp hf) with heq | hmem
    · exact Or.inl heq
    · exact Or.inr (List.mem_of_mem_filter hmem)
  refine ⟨nodup_dictSet h.nodup _ _, fun f hf hk => ?_, fun f hf hk => ?_, ?_⟩
  · rcases hold f hf with rfl | hmem
    · exact ⟨n, rfl⟩
    · exact h.count f hmem hk
  · rcases hold f hf with rfl | hmem
    · exact absurd rfl hk
    · exact h.entry f hmem hk
  · have hsame : reportsIn (fields.filter fun f => f.1 ≠ "alive_ip") = reportsIn fields := by
      unfold reportsIn
      rw [List.filterMap_filter]
      refine List.filterMap_congr fun f hf => ?_
      by_cases hk : f.1 = "alive_ip"
      · obtain ⟨n', hval⟩ := h.count f hf hk
        rw [hval]
        simp [entryIps]
      · simp [hk]
    refine List.Perm.trans ?_ h.reports
    rw [← hsame]
    exact hperm.filterMap _

/-! ## §4. The document of a report. -/

/-- The addresses of an entry, or none. -/
def ipsOf (value : Json) : List Json := (entryIps value).getD []

theorem flatMap_ipsOf (fields : JsonDict) :
    (fields.flatMap fun f => ipsOf f.2) = (reportsIn fields).flatMap Prod.snd := by
  unfold reportsIn ipsOf
  induction fields with
  | nil => rfl
  | cons f fields ih =>
      rw [List.flatMap_cons, List.filterMap_cons, ih]
      cases entryIps f.2 with
      | none => rfl
      | some ips => rfl

/-- What the loops of `_count_alive_ips` find in a document. -/
theorem countAliveIps_ok (h : Entries start reports fields) (mode : Int) :
    countAliveIps rt fields (decide (mode = 1))
      = .ok (aliveCount rt mode (reports.flatMap Prod.snd)) := by
  have hperm : (fields.flatMap fun f => ipsOf f.2).Perm (reports.flatMap Prod.snd) := by
    rw [flatMap_ipsOf]
    have hreports := h.reports.flatMap_right Prod.snd
    rw [List.flatMap_map] at hreports
    exact hreports
  unfold countAliveIps aliveCount
  by_cases hmode : mode = 1
  · have haddresses : fields.mapM (fun f => entryAddresses rt f.2) =
        .ok (fields.map fun f => (ipsOf f.2).map (addressOf rt)) := by
      refine mapM_eq_ok fun f hf => ?_
      rcases h.cases hf with ⟨n, hval⟩ | ⟨ips, t, hval⟩
      · rw [hval]
        rfl
      · rw [hval]
        rfl
    have hflat : (fields.map fun f => (ipsOf f.2).map (addressOf rt)).flatten =
        (fields.flatMap fun f => ipsOf f.2).map (addressOf rt) := by
      rw [List.map_flatMap]
      rfl
    rw [if_pos (decide_eq_true hmode), if_pos hmode, haddresses]
    show Except.ok _ = _
    rw [hflat, ((hperm.map (addressOf rt)).dedup).length_eq]
  · have hone : ∀ f ∈ fields, entryCount f.2 = (ipsOf f.2).length := by
      intro f hf
      rcases h.cases hf with ⟨n, hval⟩ | ⟨ips, t, hval⟩
      · rw [hval]
        rfl
      · rw [hval]
        rfl
    have hsum : (fields.map fun f => entryCount f.2).sum =
        ((fields.flatMap fun f => ipsOf f.2).length : Int) := by
      rw [List.map_congr_left hone]
      generalize fields = d
      induction d with
      | nil => rfl
      | cons f d ih =>
          rw [List.map_cons, List.sum_cons, List.flatMap_cons, List.length_append, ih]
          omega
    rw [decide_eq_false hmode, if_neg hmode]
    show Except.ok _ = _
    rw [hsum, hperm.length_eq]

/-- No entry of the last 100 seconds is dropped. -/
theorem keepsEntry_ok (h : Entries start reports fields) {update_at : Int}
    (hu : update_at ≤ start + 100) {f : String × Json} (hf : f ∈ fields) :
    keepsEntry rt update_at f = .ok true := by
  unfold keepsEntry
  by_cases hk : f.1 = "alive_ip"
  · rw [if_pos hk]
  · obtain ⟨ips, t, hval, ht, -⟩ := h.entry f hf hk
    have hat : CouponService.intOfItem rt (if (Json.int t).truthy then .int t else .int 0)
        = .ok t := by
      by_cases hzero : t = 0
      · subst hzero
        rfl
      · have htruthy : (Json.int t).truthy = true := by simp [Json.truthy, hzero]
        rw [if_pos htruthy]
        rfl
    rw [if_neg hk, hval]
    show (CouponService.intOfItem rt (if (Json.int t).truthy then .int t else .int 0) >>= fun at_ =>
      Except.ok (decide (update_at - at_ ≤ 100))) = _
    rw [hat]
    show Except.ok (decide (update_at - t ≤ 100)) = .ok true
    rw [decide_eq_true (by omega)]

/-- **The document of a report** holds it in the place of the node's old one, and counts. -/
theorem aliveDocument_ok (h : Entries start reports fields) (node : AliveNode) (ips : List Json)
    (mode : Int) {update_at : Int} (hu : start ≤ update_at) (hu' : update_at ≤ start + 100) :
    ∃ fields', aliveDocument rt node.key ips update_at mode fields = .ok fields' ∧
      Entries start (renew reports node ips) fields' ∧ Json.lookup fields' "alive_ip" =
        some (.int (aliveCount rt mode ((renew reports node ips).flatMap Prod.snd))) := by
  have hset := h.set node ips hu hu'
  have hkept : (dictSet fields node.key (aliveEntry ips update_at)).filterM
      (keepsEntry rt update_at) = .ok (dictSet fields node.key (aliveEntry ips update_at)) :=
    filterM_eq_ok fun f hf => keepsEntry_ok hset hu' hf
  refine ⟨_, ?_, hset.setCount _, lookup_dictSet_same _ _ _⟩
  unfold aliveDocument
  dsimp only
  rw [hkept]
  show (countAliveIps rt _ (decide (mode = 1)) >>= fun alive_ip => Except.ok _) = _
  rw [countAliveIps_ok hset]
  rfl

end

/-! ## §5. Requests. -/

/-- A call of `handle_alive`. -/
structure AliveCall where
  node : AliveNode
  data : AliveReport

def AliveCall.prog (rt : Runtime) (call : AliveCall) : Db Unit :=
  handleAlive rt call.node call.data

/-- The items that the loop does not skip. -/
def validReports (rt : Runtime) (items : JsonDict) : List (String × List Json) :=
  items.filterMap fun item =>
    match item.2 with
    | .arr ips => if rt.isnumeric item.1 then some (item.1, ips) else none
    | _ => none

/-- The users that a call reports, with their addresses. -/
def AliveCall.reports (rt : Runtime) (call : AliveCall) : List (String × List Json) :=
  validReports rt call.data.items

/-- `device_limit_mode`, when the row of the setting is `v`. -/
def aliveMode (rt : Runtime) (v : Option Setting) : Int :=
  match v.map Setting.value with
  | none => 0
  | some val => (rt.int_of_str val).getD 0

/-- What the cache holds for a user of whom there are these reports: nothing that lives at
    `start`, or a document that lives for more than 100 seconds. -/
def AliveRow (rt : Runtime) (start mode : Int) (uid : String) (reports : List NodeReport)
    (row? : Option RuntimeCacheRow) : Prop :=
  (reports = [] ∧ ∀ row, row? = some row → row.live start = false) ∨
  ∃ fields expires_at, row? = some ⟨aliveKey uid, .obj fields, some expires_at⟩ ∧
    start + 100 < expires_at ∧ Entries start reports fields ∧
    Json.lookup fields "alive_ip" = some (.int (aliveCount rt mode (reports.flatMap Prod.snd)))

/-- Statements run in the 100 seconds from `start` on. -/
def within (start : Int) : Cond AliveCall Tbl :=
  { Cond.any with stmt := fun _ s _ => decide (s.now ≤ start + 100) }

/-- What a request relies on: the mode, and the documents of its users. -/
structure AliveInv (rt : Runtime) (start : Int) (v : Option Setting) (call : AliveCall)
    (V : String → List NodeReport) (s : State Tbl) : Prop where
  mode : KeyState "device_limit_mode" v s.db
  now : start ≤ s.now
  rows : ∀ uid ∈ (call.reports rt).map Prod.fst,
    AliveRow rt start (aliveMode rt v) uid (V uid) ((s.db .runtime_cache).get? (aliveKey uid))

def aliveContract (rt : Runtime) (start : Int) (v : Option Setting) (call : AliveCall)
    (V : String → List NodeReport) : Contract AliveCall Tbl :=
  Contract.relying (within start) (AliveInv rt start v call V) (fun _ _ => True)
    (fun _ => trivial) (fun _ _ => trivial)
    (fun d h => ⟨h.mode, h.now.trans (by simp), h.rows⟩) (fun _ _ => trivial)

/-- The session has stored the documents of the users `done`, and none of another user. -/
def AliveStored (rt : Runtime) (start : Int) (v : Option Setting) (node : AliveNode)
    (V : String → List NodeReport) (done : List (String × List Json))
    (ws : List (Write Tbl)) : Prop :=
  ∀ uid,
    match done.lookup uid with
    | some ips => ∃ row, AliveRow rt start (aliveMode rt v) uid (renew (V uid) node ips)
      (some row) ∧
        ∀ db : Database, (db.apply ws .runtime_cache).get? (aliveKey uid) = some row
    | none => ∀ db : Database,
        (db.apply ws .runtime_cache).get? (aliveKey uid) = (db .runtime_cache).get? (aliveKey uid)

/-- What a request keeps while it runs. -/
def AliveKeeps (rt : Runtime) (start : Int) (v : Option Setting) (node : AliveNode)
    (V : String → List NodeReport) (done : List (String × List Json)) (s : State Tbl)
    (ws : List (Write Tbl)) : Prop :=
  Only (Copies "device_limit_mode" v) s ws ∧ AliveStored rt start v node V done ws

/-- What a request that returns has done. -/
def AlivePost (rt : Runtime) (start : Int) (v : Option Setting) (call : AliveCall)
    (V : String → List NodeReport) (r : Except PyExc Unit) (s : State Tbl) (ss : Session Tbl) :
    Prop :=
  r = .ok () → AliveKeeps rt start v call.node V (call.reports rt) s ss.ws

variable {start : Int} {v : Option Setting} {call : AliveCall} {V : String → List NodeReport}
  {node : AliveNode} {done : List (String × List Json)} {s : State Tbl} {ss : Session Tbl}

theorem AliveStored.nil : AliveStored rt start v node V [] [] := fun _ _ => rfl

/-- A write that is no document of a user. -/
theorem AliveStored.append {ws : List (Write Tbl)} (h : AliveStored rt start v node V done ws)
    {w : Write Tbl} (hw : ∀ uid, w.rowId ≠ ⟨Tbl.runtime_cache, aliveKey uid⟩) :
    AliveStored rt start v node V done (ws ++ [w]) := by
  have hsame : ∀ uid (db : Database), (db.apply (ws ++ [w]) .runtime_cache).get? (aliveKey uid) =
      (db.apply ws .runtime_cache).get? (aliveKey uid) := by
    intro uid db
    rw [DB.apply_append]
    exact DB.get?_write_of_ne _ (hw uid)
  intro uid
  have huid := h uid
  cases hdone : done.lookup uid with
  | some ips =>
      rw [hdone] at huid
      obtain ⟨row, hrow, hget⟩ := huid
      exact ⟨row, hrow, fun db => (hsame uid db).trans (hget db)⟩
  | none =>
      rw [hdone] at huid
      exact fun db => (hsame uid db).trans (huid db)

/-- The document of one more user. -/
theorem AliveStored.put {ws : List (Write Tbl)} (h : AliveStored rt start v node V done ws)
    {uid : String} {ips : List Json} {row : RuntimeCacheRow} (hnew : uid ∉ done.map Prod.fst)
    (hkey : row.key = aliveKey uid)
    (hrow : AliveRow rt start (aliveMode rt v) uid (renew (V uid) node ips) (some row)) :
    AliveStored rt start v node V (done ++ [(uid, ips)]) (ws ++ [.put Tbl.runtime_cache row]) := by
  intro uid'
  rw [List.lookup_append]
  by_cases hu : uid' = uid
  · subst hu
    have hnone : done.lookup uid' = none := by
      rw [List.lookup_eq_none_iff]
      intro p hp
      rw [bne_iff_ne]
      exact fun heq => hnew (List.mem_map.mpr ⟨p, hp, heq.symm⟩)
    rw [hnone]
    simp only [Option.none_or, List.lookup_cons_self]
    refine ⟨row, hrow, fun db => ?_⟩
    rw [DB.apply_append, ← hkey]
    show ((db.apply ws).put Tbl.runtime_cache row .runtime_cache).get? (Schema.key row) = some row
    rw [DB.put_same, Table.get?_put_self]
  · have hother : ∀ db : Database,
        (db.apply (ws ++ [.put Tbl.runtime_cache row]) .runtime_cache).get? (aliveKey uid') =
          (db.apply ws .runtime_cache).get? (aliveKey uid') := by
      intro db
      rw [DB.apply_append]
      refine DB.get?_write_of_ne (w := .put Tbl.runtime_cache row) _ fun heq => hu ?_
      have hk : row.key = aliveKey uid' := eq_of_heq (Sigma.mk.inj heq).2
      exact aliveKey_injective (hk.symm.trans hkey)
    have hlast : [(uid, ips)].lookup uid' = none := by
      rw [List.lookup_cons, beq_false_of_ne hu]
      rfl
    rw [hlast, Option.or_none]
    have huid := h uid'
    cases hdone : done.lookup uid' with
    | some ips' =>
        rw [hdone] at huid
        obtain ⟨row', hrow', hget⟩ := huid
        exact ⟨row', hrow', fun db => (hother db).trans (hget db)⟩
    | none =>
        rw [hdone] at huid
        exact fun db => (hother db).trans (huid db)

/-! ## §6. The statements of a request. -/

/-- What the cached value is of a user of whom there are these reports. -/
def CachedAs (start : Int) (reports : List NodeReport) (value : Option Json) : Prop :=
  (reports = [] ∧ value = none) ∨
    ∃ fields, value = some (.obj fields) ∧ Entries start reports fields

theorem aliveKeeps_stable {C : Contract AliveCall Tbl} :
    C.Stable (AliveKeeps rt start v node V done) := fun _ _ _ _ _ h => h

theorem aliveKey_ne_list (uid : String) : "ALIVE_LIST" ≠ aliveKey uid := by
  intro h
  have hhead := congrArg (fun text : String => text.toList[6]?) h
  unfold aliveKey at hhead
  simp only [String.toList_append] at hhead
  rw [List.getElem?_append_left (by decide)] at hhead
  revert hhead
  decide

theorem aliveKey_ne_setting (uid : String) :
    SettingService.Cached.cacheKey "device_limit_mode" ≠ aliveKey uid := by
  intro h
  have hhead := congrArg (fun text : String => text.toList[0]?) h
  unfold SettingService.Cached.cacheKey aliveKey at hhead
  simp only [String.toList_append] at hhead
  rw [List.getElem?_append_left (by decide), List.getElem?_append_left (by decide)] at hhead
  revert hhead
  decide

/-- A row that is dead stays dead. -/
theorem dead_later {row : RuntimeCacheRow} {now now' : Int} (h : row.live now = false)
    (hle : now ≤ now') : row.live now' = false := by
  unfold RuntimeCacheRow.live at h ⊢
  cases he : row.expires_at with
  | none =>
      rw [he] at h
      cases h
  | some e =>
      rw [he] at h
      simp only [decide_eq_false_iff_not] at h ⊢
      omega

/-- **The documents that a request reads** are those that it relies on. -/
theorem wp_mgetAlive (keys : List String)
    (hkeys : ∀ uid ∈ (call.reports rt).map Prod.fst, aliveKey uid ∈ keys) :
    wp (aliveContract rt start v call V) (RuntimeCache.mget keys) (fun r _ ss' =>
      ss' = Session.fresh ∧ ∃ f : String → Option Json, r = .ok (keys.map f) ∧
        ∀ uid ∈ (call.reports rt).map Prod.fst, CachedAs start (V uid) (f (aliveKey uid)))
      s Session.fresh := by
  refine wp_ite (fun hempty => ?_) fun _ => ?_
  · rw [List.isEmpty_iff.mp hempty] at hkeys ⊢
    refine ⟨rfl, fun _ => none, rfl, fun uid huid => ?_⟩
    cases hkeys uid huid
  refine (wp_bind _ _ _ _ _).mpr fun s₁ hr₁ hi₁ hclock => ?_
  have hlate : s₁.now ≤ start + 100 := of_decide_eq_true hclock
  have hearly : start ≤ s₁.now := hi₁.now
  refine (wp_bind _ _ _ _ _).mpr (wp_select fun s₂ he₂ => ?_)
  refine ⟨rfl, _, rfl, fun uid huid => ?_⟩
  -- the rows of a key that is asked for: the row there is, if it lives
  have hfind : ((s₂.view Session.fresh .runtime_cache).rows.filter
      fun r : RuntimeCacheRow => r.key ∈ keys && r.live s₁.now).find?
        (fun r : RuntimeCacheRow => r.key = aliveKey uid) =
      ((s₂.db .runtime_cache).get? (aliveKey uid)).filter fun r => r.live s₁.now := by
    rw [State.view_fresh, ← List.head?_filter, List.filter_filter]
    have hsame : (s₂.db .runtime_cache).rows.filter (fun r : RuntimeCacheRow =>
        decide (r.key = aliveKey uid) && (decide (r.key ∈ keys) && r.live s₁.now)) =
        (s₂.db .runtime_cache).rows.filter fun r : RuntimeCacheRow =>
          r.key = aliveKey uid && r.live s₁.now := by
      refine List.filter_congr fun r _ => ?_
      by_cases hk : r.key = aliveKey uid
      · simp [hk, hkeys uid huid]
      · simp [hk]
    rw [hsame]
    refine (congrArg List.head? (Table.filter_key_and (s₂.db .runtime_cache) (aliveKey uid)
      fun r => r.live s₁.now)).trans ?_
    cases ((s₂.db .runtime_cache).get? (aliveKey uid)).filter fun r => r.live s₁.now <;> rfl
  have hcached : CachedAs start (V uid) ((((s₂.db .runtime_cache).get? (aliveKey uid)).filter
      fun r : RuntimeCacheRow => r.live s₁.now).bind fun r =>
        RuntimeCache.decodeJsonb r.value) := by
    rcases he₂.inv.rows uid huid with ⟨hnone, hdead⟩ | ⟨fields, e, hrow, hlive, hentries, -⟩
    · refine Or.inl ⟨hnone, ?_⟩
      cases hget : (s₂.db .runtime_cache).get? (aliveKey uid) with
      | none => rfl
      | some row =>
          have hd : RuntimeCacheRow.live s₁.now row = false := dead_later (hdead row hget) hearly
          simp [Option.filter, hd]
    · refine Or.inr ⟨fields, ?_, hentries⟩
      have hl : RuntimeCacheRow.live s₁.now ⟨aliveKey uid, .obj fields, some e⟩ = true :=
        decide_eq_true (by omega)
      rw [hrow]
      simp [Option.filter, hl, RuntimeCache.decodeJsonb]
  exact (congrArg (fun found : Option RuntimeCacheRow => CachedAs start (V uid)
    (found.bind fun r => RuntimeCache.decodeJsonb r.value)) hfind).mpr hcached

/-- The mode that a request reads. -/
theorem wp_getMode (hi : (aliveContract rt start v call V).Inv s)
    (hj : AliveKeeps rt start v node V [] s ss.ws) :
    wp (aliveContract rt start v call V)
      (SettingService.Cached.getInt rt "device_limit_mode" 0) (fun r s' ss' =>
        AliveKeeps rt start v node V [] s' ss'.ws ∧ ∀ mode, r = .ok mode → mode = aliveMode rt v)
      s ss := by
  -- what it stores is no document of a user
  have hopen : CacheOpen (aliveContract rt start v call V)
      (fun _ ws => AliveStored rt start v node V [] ws)
      (SettingService.Cached.cacheKey "device_limit_mode") := by
    refine ⟨fun row hrow s ws _ h => h.append fun uid heq => ?_, fun s ws _ h =>
      h.append fun uid heq => ?_⟩
    · have hk : row.key = aliveKey uid := eq_of_heq (Sigma.mk.inj heq).2
      exact aliveKey_ne_setting uid (hrow.symm.trans hk)
    · exact aliveKey_ne_setting uid (eq_of_heq (Sigma.mk.inj heq).2)
  have hstored := steady_getInt rt (fun _ _ _ _ _ h => h) hopen 0 s ss hi hj.2
  have hstate := @wp_getCached_state rt
  have htext := hstate (fun s (hi : (aliveContract rt start v call V).Inv s) => hi.mode) hi hj.1
  have hmode : wp (aliveContract rt start v call V)
      (SettingService.Cached.getInt rt "device_limit_mode" 0) (fun r s' ss' =>
        Only (Copies "device_limit_mode" v) s' ss'.ws ∧ ∀ mode, r = .ok mode →
          mode = aliveMode rt v)
      s ss := by
    refine (wp_bind _ _ _ _ _).mpr (wp_mono htext fun r s' ss' h => ?_)
    obtain ⟨hcopies, rfl⟩ := h
    unfold aliveMode
    cases v.map Setting.value with
    | none =>
        refine ⟨hcopies, fun mode hmode => ?_⟩
        cases hmode
        rfl
    | some val =>
        dsimp only
        cases rt.int_of_str val with
        | none => exact ⟨hcopies, fun mode hmode => by cases hmode⟩
        | some i =>
            refine ⟨hcopies, fun mode hmode => ?_⟩
            cases hmode
            rfl
  refine wp_mono (wp_and hstored hmode) fun r s' ss' h => ?_
  exact ⟨⟨h.2.1, h.1⟩, h.2.2⟩

/-- The value that is looked up in a list of keys and their values. -/
theorem lookup_zip_map {β : Type} {keys : List String} {k : String} (h : k ∈ keys)
    (g : String → β) : (keys.zip (keys.map g)).lookup k = some (g k) := by
  induction keys with
  | nil => cases h
  | cons key keys ih =>
      show ((key, g key) :: keys.zip (keys.map g)).lookup k = _
      rw [List.lookup_cons]
      by_cases hk : k = key
      · rw [hk, beq_self_eq_true]
      · rw [beq_false_of_ne hk]
        exact ih ((List.mem_cons.mp h).resolve_left hk)

/-- The document that the loop begins with. -/
theorem CachedAs.document {reports : List NodeReport} {keys : List String} {key : String}
    {f : String → Option Json} (h : CachedAs start reports (f key)) (hkey : key ∈ keys) :
    Entries start reports
      (cachedDocument (keys.zip ((keys.map f).map (loadsCacheJson rt))) key) := by
  unfold cachedDocument
  rw [List.map_map, lookup_zip_map hkey, Option.join_some, Function.comp_apply]
  rcases h with ⟨rfl, hnone⟩ | ⟨fields, hvalue, hentries⟩
  · rw [hnone]
    exact Entries.empty start
  · rw [hvalue]
    exact hentries

theorem validReports_append (rt : Runtime) (items items' : JsonDict) :
    validReports rt (items ++ items') = validReports rt items ++ validReports rt items' :=
  List.filterMap_append

theorem mem_validReports {items : JsonDict} {p : String × List Json} :
    p ∈ validReports rt items ↔ (p.1, .arr p.2) ∈ items ∧ rt.isnumeric p.1 = true := by
  unfold validReports
  rw [List.mem_filterMap]
  constructor
  · rintro ⟨⟨uid, value⟩, hmem, hval⟩
    cases value with
    | arr ips =>
        by_cases hn : rt.isnumeric uid = true
        · simp only [hn, if_true, Option.some.injEq] at hval
          rw [← hval]
          exact ⟨hmem, hn⟩
        · simp [hn] at hval
    | _ => cases hval
  · rintro ⟨hmem, hn⟩
    refine ⟨_, hmem, ?_⟩
    simp [hn]

/-- The write of a document. -/
theorem wp_setAlive {uid : String} {fields : JsonDict}
    {Q : Except PyExc Bool → State Tbl → Session Tbl → Prop}
    (h : ∀ s₁ now, (aliveContract rt start v call V).Inv s₁ → start ≤ now →
      Q (.ok true) s₁ (ss.write (.put Tbl.runtime_cache
        ⟨aliveKey uid, .obj fields, some (now + 120)⟩))) :
    wp (aliveContract rt start v call V) (RuntimeCache.set (aliveKey uid) (.obj fields) (some 120))
      Q s ss := by
  refine (wp_bind _ _ _ _ _).mpr (wp_clock fun s₁ he₁ => ?_)
  refine (wp_bind _ _ _ _ _).mpr (wp_upsert ?_ (fun s₂ he₂ _ => ?_) ?_)
  · exact fun cur => rfl
  · exact h s₂ s₁.now he₂.inv he₁.inv.now
  · intro s₂ cur he₂ hcur
    have hkey : cur.key = aliveKey uid := Table.key_of_get? hcur
    have hrow : RuntimeCache.overwrite ⟨aliveKey uid, .obj fields, some (s₁.now + 120)⟩ cur =
        ⟨aliveKey uid, .obj fields, some (s₁.now + 120)⟩ := by
      unfold RuntimeCache.overwrite
      rw [hkey]
    show Q (.ok true) s₂ (ss.write (.put Tbl.runtime_cache (RuntimeCache.overwrite
      ⟨aliveKey uid, .obj fields, some (s₁.now + 120)⟩ cur)))
    rw [hrow]
    exact h s₂ s₁.now he₂.inv he₁.inv.now

/-- **One turn of the loop**: the item is skipped, or its document is stored. -/
theorem wp_storeAlive {item : String × Json} {items : JsonDict} {update_at : Int}
    {cached : List (String × Option Json)}
    (hi : (aliveContract rt start v call V).Inv s)
    (hj : AliveKeeps rt start v node V (validReports rt items) s ss.ws)
    (hnew : item.1 ∉ items.map Prod.fst) (hu : start ≤ update_at) (hu' : update_at ≤ start + 100)
    (hcached : ∀ p ∈ validReports rt [item],
      Entries start (V p.1) (cachedDocument cached (aliveKey p.1))) :
    wp (aliveContract rt start v call V)
      (storeAlive rt node.key update_at (aliveMode rt v) cached item)
      (fun r s' ss' => r = .ok () ∧ (aliveContract rt start v call V).Inv s' ∧
        AliveKeeps rt start v node V (validReports rt (items ++ [item])) s' ss'.ws) s ss := by
  obtain ⟨uid, value⟩ := item
  have hskip : validReports rt [(uid, value)] = [] → validReports rt (items ++ [(uid, value)]) =
      validReports rt items := by
    intro hnone
    rw [validReports_append, hnone, List.append_nil]
  cases value with
  | arr ips =>
      refine wp_ite (fun hnumeric => ?_) fun hother => ?_
      · have hvalid : validReports rt [(uid, .arr ips)] = [(uid, ips)] := by
          simp [validReports, hnumeric]
        have hentries := hcached (uid, ips) (by rw [hvalid]; exact List.mem_singleton_self _)
        have hdocument := @aliveDocument_ok rt
        obtain ⟨fields, hfields, hentries', hcount⟩ :=
          hdocument hentries node ips (aliveMode rt v) hu hu'
        rw [hfields]
        refine (wp_bind _ _ _ _ _).mpr (wp_liftExcept ?_)
        refine (wp_bind _ _ _ _ _).mpr (wp_setAlive fun s₁ now hi₁ hnow => ⟨rfl, hi₁, ?_, ?_⟩)
        · refine Only.append hj.1 ⟨show Tbl.runtime_cache ≠ Tbl.setting by decide, ?_⟩
          intro row hrow hkey
          cases hrow
          exact absurd hkey.symm (aliveKey_ne_setting uid)
        · rw [validReports_append, hvalid]
          refine hj.2.put (fun hmem => hnew ?_) rfl ?_
          · obtain ⟨p, hp, rfl⟩ := List.mem_map.mp hmem
            exact List.mem_map.mpr ⟨_, (mem_validReports.mp hp).1, rfl⟩
          · exact Or.inr ⟨fields, now + 120, rfl, by omega, hentries', hcount⟩
      · have hnone : validReports rt [(uid, .arr ips)] = [] := by simp [validReports, hother]
        refine ⟨rfl, hi, ?_⟩
        rw [hskip hnone]
        exact hj
  | _ =>
      refine ⟨rfl, hi, ?_⟩
      rw [hskip rfl]
      exact hj

/-! ## §7. A request. -/

/-- **A request stores the documents of its users** with its reports in them. -/
theorem wp_handleAlive (rt : Runtime) (start : Int) (v : Option Setting) (call : AliveCall)
    (V : String → List NodeReport) (s : State Tbl) :
    wp (aliveContract rt start v call V) (call.prog rt)
      (Ends (aliveContract rt start v call V) (AlivePost rt start v call V)) s Session.fresh := by
  have hraise : ∀ (e : PyExc) (s : State Tbl) (ss : Session Tbl),
      Ends (aliveContract rt start v call V) (AlivePost rt start v call V) (.error e) s ss := by
    intro e s ss s' _ _ h
    cases h
  refine (wp_bind _ _ _ _ _).mpr fun s₁ hr₁ hi₁ hclock => ?_
  have hu : start ≤ s₁.now := hi₁.now
  have hu' : s₁.now ≤ start + 100 := of_decide_eq_true hclock
  -- the documents
  have hkeys : ∀ uid ∈ (call.reports rt).map Prod.fst,
      aliveKey uid ∈ call.data.items.map fun item => aliveKey item.1 := by
    intro uid huid
    obtain ⟨p, hp, rfl⟩ := List.mem_map.mp huid
    exact List.mem_map.mpr ⟨_, (mem_validReports.mp hp).1, rfl⟩
  refine (wp_bind _ _ _ _ _).mpr (wp_mono (wp_inv hi₁ (wp_mgetAlive _ hkeys)) ?_)
  rintro _ s₂ _ ⟨hi₂, rfl, f, rfl, hf⟩
  -- the mode
  have hstart : AliveKeeps rt start v call.node V [] s₂ Session.fresh.ws :=
    ⟨Only.nil _ _, AliveStored.nil⟩
  refine (wp_bind _ _ _ _ _).mpr (wp_mono (wp_inv hi₂ (wp_getMode hi₂ hstart)) ?_)
  intro r s₃ ss₃ h₃
  obtain ⟨hi₃, hj₃, hmode⟩ := h₃
  cases r with
  | error e => exact hraise e s₃ ss₃
  | ok mode =>
  have hm := hmode mode rfl
  subst hm
  -- the loop: the items before the one at hand are done
  have hloop : wp (aliveContract rt start v call V)
      (Prog.forEach call.data.items (storeAlive rt call.node.key s₁.now (aliveMode rt v)
        ((call.data.items.map fun item => aliveKey item.1).zip
          (((call.data.items.map fun item => aliveKey item.1).map f).map (loadsCacheJson rt)))))
      (fun r s' ss' => r = .ok () ∧ (aliveContract rt start v call V).Inv s' ∧
        AliveKeeps rt start v call.node V (call.reports rt) s' ss'.ws) s₃ ss₃ := by
    refine wp_forEach (fun rest s ss => ∃ before, call.data.items = before ++ rest ∧
      (aliveContract rt start v call V).Inv s ∧
        AliveKeeps rt start v call.node V (validReports rt before) s ss.ws) ?_ ?_
      ⟨[], rfl, hi₃, hj₃⟩
    · rintro item rest s ss ⟨before, hsplit, hi, hj⟩
      have hnew : item.1 ∉ before.map Prod.fst := by
        have hn := call.data.nodup
        rw [hsplit, List.map_append, List.nodup_append] at hn
        exact fun hmem => hn.2.2 _ hmem _ List.mem_cons_self rfl
      have hsub : ∀ p ∈ validReports rt [item], p ∈ call.reports rt := by
        intro p hp
        unfold AliveCall.reports
        rw [hsplit, show item :: rest = [item] ++ rest from rfl, validReports_append,
          validReports_append]
        exact List.mem_append_right _ (List.mem_append_left _ hp)
      have hcached : ∀ p ∈ validReports rt [item], Entries start (V p.1)
          (cachedDocument ((call.data.items.map fun item => aliveKey item.1).zip
            (((call.data.items.map fun item => aliveKey item.1).map f).map (loadsCacheJson rt)))
            (aliveKey p.1)) := by
        intro p hp
        have huid : p.1 ∈ (call.reports rt).map Prod.fst := List.mem_map.mpr ⟨p, hsub p hp, rfl⟩
        exact (hf p.1 huid).document (hkeys p.1 huid)
      refine wp_mono (wp_storeAlive hi hj hnew hu hu' hcached) ?_
      rintro _ s' ss' ⟨rfl, hi', hj'⟩
      exact ⟨before ++ [item], by rw [hsplit, List.append_assoc]; rfl, hi', hj'⟩
    · rintro s ss ⟨before, hsplit, hi, hj⟩
      rw [List.append_nil] at hsplit
      refine ⟨rfl, hi, ?_⟩
      unfold AliveCall.reports
      rw [hsplit]
      exact hj
  refine (wp_bind _ _ _ _ _).mpr (wp_mono hloop ?_)
  rintro _ s₄ ss₄ ⟨rfl, hi₄, hj₄⟩
  -- the list of all counts is no document of a user
  have hdel : CacheDel (aliveContract rt start v call V)
      (AliveKeeps rt start v call.node V (call.reports rt)) "ALIVE_LIST" := by
    refine fun s ws _ h => ⟨h.1.append (copies_del _ _ _), h.2.append fun uid heq => ?_⟩
    exact aliveKey_ne_list uid (eq_of_heq (Sigma.mk.inj heq).2)
  refine (wp_bind _ _ _ _ _).mpr (wp_mono
    (steady_delete aliveKeeps_stable hdel s₄ ss₄ hi₄ hj₄) fun r s₅ ss₅ hj₅ => ?_)
  cases r with
  | error e => exact hraise e s₅ ss₅
  | ok count => exact fun _ _ _ _ => hj₅

end PyBoard
