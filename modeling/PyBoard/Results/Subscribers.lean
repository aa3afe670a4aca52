/-
  PyBoard.Results.Subscribers — who is active, and who is authorised on a node.

  Four tests decide whether a subscription still runs: `isUserActive`, the count of a
  plan's active users, the users of a node and the subscription page.  Two compare
  with `<` and two with `≤`, so they differ in the second in which the subscription
  expires (`tests_agree_iff`).  The page is the stricter one, so a user who sees a node is
  authorised on it, unless the node cannot ask for its users at all
  (`visible_node_serves_user`): one group id that the column does not hold is enough
  (`large_group_serves_nobody`).
-/
import PyBoard.Specs.Subscribe
import PyBoard.Services.Order
import PyBoard.Python.Utc

namespace PyBoard

open Relational

variable {rt : Runtime} {fm : Formats} {now : Int} {user : User}

/-! ## §1. The tests. -/

/-- Is the user among those that `count_active_users` counts for the plan? -/
def User.countedFor (now plan_id : Int) (user : User) : Bool :=
  PlanRepository.isActiveRow now user && user.plan_id = some plan_id

/-- The users that `count_active_users` counts for the plan, the given one left out. -/
def othersCounted (db : Database) (now plan_id : Int) (user : User) : Nat :=
  ((db .users).rows.filter fun u : User => u.id ≠ user.id).countP (User.countedFor now plan_id)

/-- **The tests of one user agree at a time**, and a renewal that needs a slot is not in the
    count that its plan's capacity is compared with. -/
structure TestsAgree (now : Int) (user : User) : Prop where
  counted : PlanRepository.isActiveRow now user = isUserActive now user.expired_at
  served : ServerService.notExpired now user.expired_at = isUserActive now user.expired_at
  subscribed : SubscribeService.notExpired now user.expired_at = isUserActive now user.expired_at
  renewal : ∀ (db : Database) (plan_id : Int) (period : String) (counts : Int → Int)
    (ss : Session Tbl), user ∈ (db .users).rows → user.plan_id = some plan_id →
    requiresCapacitySlot now user.plan_id user.expired_at plan_id period = true →
    PlanRepository.countActiveUsers.run ⟨db, now⟩ Session.fresh = (.ok counts, ss) →
    counts plan_id = othersCounted db now plan_id user

/-- What `count_active_users` answers. -/
theorem run_countActiveUsers {s : State Tbl} {ss ss' : Session Tbl} {counts : Int → Int}
    (h : PlanRepository.countActiveUsers.run s ss = (.ok counts, ss')) (plan_id : Int) :
    counts plan_id = (s.view ss .users).rows.countP (User.countedFor s.now plan_id) := by
  unfold PlanRepository.countActiveUsers time at h
  simp only [Prog.bind_eq, Prog.run_clock_bind, Prog.run_select_bind] at h
  rw [← Except.ok.inj (Prod.mk.inj h).1]
  show ((((s.view ss .users).rows.filter (PlanRepository.isActiveRow s.now)).countP
    fun u : User => u.plan_id = some plan_id : Nat) : Int) = _
  rw [List.countP_filter]
  refine congrArg Nat.cast (List.countP_congr ?_)
  intro u _
  rw [User.countedFor, Bool.and_comm]

/-- A user who is not counted can be left out of the count. -/
theorem othersCounted_of_not_counted {db : Database} {plan_id : Int}
    (huser : user ∈ (db .users).rows) (h : user.countedFor now plan_id = false) :
    othersCounted db now plan_id user
      = (db .users).rows.countP (User.countedFor now plan_id) := by
  unfold othersCounted
  rw [List.countP_filter]
  refine List.countP_congr ?_
  intro u hu
  by_cases hid : u.id = user.id
  · have hsame : u = user := (db .users).eq_of_key_eq hu huser hid
    rw [hsame, h]
    simp
  · simp [hid]

/-- **The tests agree on every user at every time but one**: the second in which the
    subscription expires.  (Without a plan a user is in no plan's count.) -/
theorem tests_agree_iff (now : Int) (user : User) :
    TestsAgree now user ↔ user.expired_at ≠ some now ∧
      (user.plan_id = none → isUserActive now user.expired_at = false) := by
  constructor
  · intro h
    refine ⟨?_, ?_⟩
    · intro hexp
      have hserved := h.served
      simp [hexp, ServerService.notExpired, isUserActive] at hserved
    · intro hplan
      rw [← h.counted, PlanRepository.isActiveRow, hplan]
      rfl
  · rintro ⟨hexp, hplan⟩
    have hsame : ServerService.notExpired now user.expired_at
        = isUserActive now user.expired_at := by
      unfold ServerService.notExpired isUserActive
      cases he : user.expired_at with
      | none => rfl
      | some e =>
          have hne : e ≠ now := fun heq => hexp (heq ▸ he)
          simp only [decide_eq_decide]
          omega
    have hrow : PlanRepository.isActiveRow now user
        = (user.plan_id.isSome && isUserActive now user.expired_at) := by
      rw [← hsame]
      rfl
    refine ⟨?_, hsame, ?_, ?_⟩
    · rw [hrow]
      cases hp : user.plan_id with
      | none => rw [hplan hp, Bool.and_false]
      | some _ => rw [Option.isSome_some, Bool.true_and]
    · unfold SubscribeService.notExpired isUserActive
      cases user.expired_at <;> rfl
    · intro db plan_id period counts ss huser hp hslot hrun
      rw [run_countActiveUsers hrun, State.view_fresh]
      refine (congrArg Nat.cast (othersCounted_of_not_counted huser ?_)).symm
      -- the renewal needs a slot because the subscription does not run
      have hidle : isUserActive now user.expired_at = false := by
        unfold requiresCapacitySlot at hslot
        split at hslot
        · cases hslot
        · simpa [hp] using hslot
      rw [User.countedFor, hrow, hidle, Bool.and_false, Bool.false_and]

/-- A user of plan 1 whose subscription expires at 1700000000. -/
def lastSecond : User :=
  { id := 1, email := "a@example.com", password := "", token := "t", uuid := "u",
    plan_id := some 1, group_id := some 1, transfer_enable := 1, expired_at := some 1700000000 }

/-- **In the last second the tests disagree**: the renewing user needs a slot of the plan and
    already is in its count. -/
theorem last_second_disagrees : ¬ TestsAgree 1700000000 lastSecond ∧
    requiresCapacitySlot 1700000000 lastSecond.plan_id lastSecond.expired_at 1 "month_price"
      = true ∧
    lastSecond.countedFor 1700000000 1 = true := by
  refine ⟨?_, rfl, by decide⟩
  intro h
  have hserved := h.served
  revert hserved
  decide

/-! ## §2. The group ids of a node. -/

/-- An integer or a text of digits for a group. -/
def GroupItem (rt : Runtime) : Json → Prop
  | .int n => 0 < n
  | .str s => ∃ n, rt.int_of_str s = some n ∧ 0 < n
  | _ => False

/-- **The forms of a stored group id**: an integer, a list, or a text with one number, a JSON
    list or a list separated by commas. -/
inductive GroupIds (rt : Runtime) : Json → Prop
  | int (n : Int) (h : 0 < n) : GroupIds rt (.int n)
  | list (items : List Json) (h : ∀ item ∈ items, GroupItem rt item) : GroupIds rt (.arr items)
  | number (text : String) (n : Int) (hne : text ≠ "") (hn : 0 < n)
      (h : rt.orjson_loads text = some (.int n)) : GroupIds rt (.str text)
  | json (text : String) (items : List Json) (hne : text ≠ "")
      (hloads : rt.orjson_loads text = some (.arr items))
      (h : ∀ item ∈ items, GroupItem rt item) : GroupIds rt (.str text)
  | commas (text : String) (hne : text ≠ "") (hloads : rt.orjson_loads text = none)
      (h : ∀ item ∈ (text.toList.splitOn ',').map fun l => rt.strip (String.ofList l),
        GroupItem rt (.str item)) : GroupIds rt (.str text)

/-- How the interpreter reads the decimal notation of a group id. -/
structure ReadsDecimal (rt : Runtime) (g : Int) : Prop where
  int : rt.int_of_str (toString g) = some g
  digits : 0 < g → rt.isdigit (toString g) = true
  loads : rt.orjson_loads (toString g) = some (.int g)

section

variable {g : Int}

theorem GroupItem.toInt {item : Json} (h : GroupItem rt item) :
    ∃ n, CouponService.intOfItem rt item = .ok n ∧ 0 < n := by
  cases item with
  | int n => exact ⟨n, rfl, h⟩
  | str s =>
      obtain ⟨n, hn, hpos⟩ := h
      exact ⟨n, by rw [CouponService.intOfItem, hn], hpos⟩
  | _ => exact h.elim

/-- An item that is written as the group id is the group id. -/
theorem GroupItem.eq_of_str (hrt : ReadsDecimal rt g) {item : Json} (h : GroupItem rt item)
    (hstr : rt.str item = toString g) : CouponService.intOfItem rt item = .ok g := by
  cases item with
  | int n =>
      have hn : n = g := toString_int_injective hstr
      rw [hn]
      rfl
  | str s =>
      have hs : s = toString g := hstr
      rw [hs, CouponService.intOfItem, hrt.int]
  | _ => exact h.elim

/-- A list of group items converts, and keeps the items. -/
theorem intsOfItems_ok {items : List Json} (h : ∀ item ∈ items, GroupItem rt item) :
    ∃ ids, intsOfItems rt items = .ok ids ∧
      ∀ item ∈ items, ∀ n, CouponService.intOfItem rt item = .ok n → n ∈ ids := by
  induction items with
  | nil => exact ⟨[], rfl, fun _ h => (List.not_mem_nil h).elim⟩
  | cons item items ih =>
      obtain ⟨ids, hids, hmem⟩ := ih fun i hi => h i (List.mem_cons_of_mem _ hi)
      obtain ⟨n, hn, -⟩ := (h item List.mem_cons_self).toInt
      refine ⟨n :: ids, ?_, ?_⟩
      · rw [intsOfItems, hn, hids]
        rfl
      · intro item' hitem' n' hn'
        rcases List.mem_cons.mp hitem' with rfl | hlater
        · rw [hn] at hn'
          rw [Except.ok.inj hn']
          exact List.mem_cons_self
        · exact List.mem_cons_of_mem _ (hmem item' hlater n' hn')

/-- The same for the numbers of a text with commas. -/
theorem mapM_intOfItem_ok {items : List String}
    (h : ∀ item ∈ items, GroupItem rt (.str item)) :
    ∃ ids, (items.mapM fun item => CouponService.intOfItem rt (.str item)) = .ok ids ∧
      ∀ item ∈ items, ∀ n, CouponService.intOfItem rt (.str item) = .ok n → n ∈ ids := by
  induction items with
  | nil => exact ⟨[], rfl, fun _ h => (List.not_mem_nil h).elim⟩
  | cons item items ih =>
      obtain ⟨ids, hids, hmem⟩ := ih fun i hi => h i (List.mem_cons_of_mem _ hi)
      obtain ⟨n, hn, -⟩ := (h item List.mem_cons_self).toInt
      refine ⟨n :: ids, ?_, ?_⟩
      · rw [List.mapM_cons, hn, hids]
        rfl
      · intro item' hitem' n' hn'
        rcases List.mem_cons.mp hitem' with rfl | hlater
        · rw [hn] at hn'
          rw [Except.ok.inj hn']
          exact List.mem_cons_self
        · exact List.mem_cons_of_mem _ (hmem item' hlater n' hn')

/-- A list that contains the group has its id among its numbers. -/
theorem mem_of_parsedContains_arr (hrt : ReadsDecimal rt g) {items : List Json}
    (h : ∀ item ∈ items, GroupItem rt item)
    (hg : ServerV2NodeRepository.parsedContains rt g (.arr items) = true) :
    ∃ ids, intsOfItems rt items = .ok ids ∧ g ∈ ids := by
  obtain ⟨item, hitem, hstr⟩ := List.mem_map.mp (of_decide_eq_true hg)
  obtain ⟨ids, hids, hmem⟩ := intsOfItems_ok h
  exact ⟨ids, hids, hmem item hitem g ((h item hitem).eq_of_str hrt hstr)⟩

/-- **The two readings of a group id**: where the page finds the group, the node's list of
    numbers has it. -/
theorem groupContains_intListCast {raw : Json} (hrt : ReadsDecimal rt g) (h : GroupIds rt raw)
    (hg : ServerV2NodeRepository.groupContains rt raw g = true) :
    ∃ ids, intListCast rt raw = .ok ids ∧ g ∈ ids := by
  have htext : ∀ text : String, text ≠ "" →
      (if (Json.str text).truthy then rt.str (.str text) else "") = text := by
    intro text hne
    rw [if_pos (by simpa [Json.truthy] using hne)]
    rfl
  cases h with
  | int n hn =>
      have heq : n = g := of_decide_eq_true hg
      exact ⟨[n], rfl, heq ▸ List.mem_singleton_self n⟩
  | list items hitems =>
      exact mem_of_parsedContains_arr hrt hitems hg
  | number text n hne hn hloads =>
      have hcast : intListCast rt (.str text) = .ok [n] := by
        rw [intListCast, jsonCast, if_neg hne, hloads]
      refine ⟨[n], hcast, List.mem_singleton.mpr ?_⟩
      unfold ServerV2NodeRepository.groupContains at hg
      dsimp only at hg
      rw [htext text hne, hloads] at hg
      split at hg
      · next heq =>
        have hsame := hrt.loads
        rw [← heq, hloads] at hsame
        exact (Json.int.inj (Option.some.inj hsame)).symm
      · exact (of_decide_eq_true hg : n = g).symm
  | json text items hne hloads hitems =>
      have hcast : intListCast rt (.str text) = intsOfItems rt items := by
        rw [intListCast, jsonCast, if_neg hne, hloads]
      rw [hcast]
      unfold ServerV2NodeRepository.groupContains at hg
      dsimp only at hg
      rw [htext text hne, hloads] at hg
      split at hg
      · next heq =>
        have hsame := hrt.loads
        rw [← heq, hloads] at hsame
        cases hsame
      · exact mem_of_parsedContains_arr hrt hitems hg
  | commas text hne hloads hitems =>
      have hcast : intListCast rt (.str text) = intsOfText rt text := by
        rw [intListCast, jsonCast, if_neg hne, hloads]
      rw [hcast]
      unfold ServerV2NodeRepository.groupContains at hg
      dsimp only at hg
      rw [htext text hne, hloads] at hg
      split at hg
      · next heq =>
        have hsame := hrt.loads
        rw [← heq, hloads] at hsame
        cases hsame
      · have hmem := of_decide_eq_true hg
        have hitem := hitems _ hmem
        obtain ⟨n, hn, hpos⟩ := hitem
        have hng : n = g := Option.some.inj (hn.symm.trans hrt.int)
        have hdigits : ∀ item ∈ ((text.toList.splitOn ',').map fun l =>
            rt.strip (String.ofList l)).filter rt.isdigit, GroupItem rt (.str item) :=
          fun item hi => hitems item (List.mem_of_mem_filter hi)
        obtain ⟨ids, hids, hall⟩ := mapM_intOfItem_ok hdigits
        refine ⟨ids, hids, hall (toString g) ?_ g ?_⟩
        · exact List.mem_filter.mpr ⟨hmem, hrt.digits (hng ▸ hpos)⟩
        · rw [CouponService.intOfItem, hrt.int]

end

/-! ## §3. The users of a node. -/

/-- A server of the page is the dict of a visible node, perhaps under another name. -/
theorem servers_of_visible {s : State Tbl} {ss ss' : Session Tbl} {servers : List JsonDict}
    (havail : SubscribeService.isAvailable s.now user = true)
    (h : (SubscribeService.getAvailableServers rt fm user).run s ss = (.ok servers, ss'))
    {server : JsonDict} (hserver : server ∈ servers) :
    ∃ node ∈ SubscribeService.visibleNodes rt (s.view ss) user.group_id,
      dictGet server "id" = .int node.id := by
  obtain ⟨prepared, hprep, hservers⟩ := SubscribeService.run_getAvailableServers havail h
  have hid : ∀ p ∈ prepared, ∃ node ∈ SubscribeService.visibleNodes rt (s.view ss) user.group_id,
      dictGet p "id" = .int node.id := by
    intro p hp
    obtain ⟨node, hnode, hdict⟩ := mem_of_mapM_ok hprep hp
    exact ⟨node, hnode, SubscribeService.nodeToSubscribeDict_id hdict⟩
  rcases hservers with rfl | rfl
  · exact hid server hserver
  · -- the copies in front differ from the first server in their name only
    unfold SubscribeService.prependSubscribeInfoServers at hserver
    cases prepared with
    | nil => cases hserver
    | cons first rest =>
        obtain ⟨node, hnode, hfirst⟩ := hid first List.mem_cons_self
        rcases List.mem_append.mp hserver with hcopy | hmem
        · refine ⟨node, hnode, ?_⟩
          rcases List.mem_cons.mp hcopy with rfl | hcopy
          · rw [dictGet_dictSet_of_ne _ _ (by decide), hfirst]
          · rw [List.mem_singleton.mp hcopy, dictGet_dictSet_of_ne _ _ (by decide), hfirst]
        · exact hid server hmem

/-- **The node can ask for its users**: its group ids can be bound to the query, and the query
    computes no sum that leaves BIGINT. -/
structure UsersAskable (rt : Runtime) (early : User → Bool) (now : Int) (db : Database)
    (group_id : Json) : Prop where
  ids : ∀ ids, intListCast rt group_id = .ok ids → ∀ i ∈ ids, integerFits i = true
  few : ∀ ids, intListCast rt group_id = .ok ids → ids.length + 1 ≤ QUERY_ARGUMENTS_MAX
  sums : ∀ ids, intListCast rt group_id = .ok ids → ∀ u ∈ (db .users).rows,
    ServerService.isSummed early now ids u = true → fitsBigint (User.u u + User.d u) = true

section

variable {db : Database} {early : User → Bool} {raw : Json} {ids : List Int}

/-- A user that the WHERE clause keeps is one whose traffic was summed. -/
theorem isSummed_of_isAvailableUser {u : User}
    (h : ServerService.isAvailableUser now ids u = true) :
    ServerService.isSummed early now ids u = true := by
  unfold ServerService.isAvailableUser at h
  rw [ServerService.isSummed, ((Bool.and_eq_true _ _).mp h).1, Bool.or_true]

/-- A stored user whose traffic the query cannot sum up. -/
def overflows (early : User → Bool) (now : Int) (db : Database) (ids : List Int) : Bool :=
  ((db .users).rows.filter (ServerService.isSummed early now ids)).any fun u : User =>
    !fitsBigint (u.u + u.d)

theorem overflows_eq_false : overflows early now db ids = false ↔
    ∀ u ∈ (db .users).rows, ServerService.isSummed early now ids u = true →
      fitsBigint (User.u u + User.d u) = true := by
  rw [overflows, List.any_eq_false]
  simp only [List.mem_filter, Bool.not_eq_true', and_imp, Bool.not_eq_false]
  rfl

/-- What a node is answered that has group ids. -/
theorem run_getAvailableUsers (hids : intListCast rt raw = .ok ids) (hne : ids ≠ []) :
    (ServerService.getAvailableUsers rt early raw).run ⟨db, now⟩ Session.fresh =
      match bindIntegers ids 1 with
      | .error e => (.error e, Session.fresh)
      | .ok _ =>
        if overflows early now db ids = true then (.error (.other "DBAPIError"), Session.fresh)
        else (.ok (((db .users).rows.filter (ServerService.isAvailableUser now ids)).map
          ServerService.userToNodeDict), Session.fresh) := by
  have hrows : ((db .users).rows.filter (ServerService.isSummed early now ids)).filter
      (ServerService.isAvailableUser now ids)
        = (db .users).rows.filter (ServerService.isAvailableUser now ids) := by
    rw [List.filter_filter]
    refine List.filter_congr fun u _ => ?_
    cases hu : ServerService.isAvailableUser now ids u with
    | false => rfl
    | true => rw [isSummed_of_isAvailableUser hu]; rfl
  unfold ServerService.getAvailableUsers time
  rw [Prog.bind_eq, Prog.run_bind, run_liftExcept, hids]
  dsimp only
  rw [if_neg (by simpa using hne), Prog.bind_eq, Prog.run_clock_bind, Prog.bind_eq, Prog.run_bind,
    run_liftExcept]
  cases bindIntegers ids 1 with
  | error e => rfl
  | ok =>
    dsimp only
    rw [Prog.bind_eq, Prog.run_select_bind, State.view_fresh, hrows, ← overflows]
    split <;> rfl

/-- A node that can ask for its users. -/
theorem usersAskable_iff (hids : intListCast rt raw = .ok ids) :
    UsersAskable rt early now db raw ↔
      bindIntegers ids 1 = .ok () ∧ overflows early now db ids = false := by
  rw [bindIntegers_eq_ok, overflows_eq_false]
  constructor
  · exact fun h => ⟨⟨h.ids ids hids, h.few ids hids⟩, h.sums ids hids⟩
  · rintro ⟨⟨hfit, hfew⟩, hsums⟩
    have hread : ∀ {ids' : List Int}, intListCast rt raw = .ok ids' → ids' = ids := fun hids' =>
      Except.ok.inj (hids'.symm.trans hids)
    exact ⟨fun _ h => hread h ▸ hfit, fun _ h => hread h ▸ hfew, fun _ h => hread h ▸ hsums⟩

/-- The page is the stricter test. -/
theorem isAvailableUser_of_isAvailable {g : Int} (hg : user.group_id = some g) (hmem : g ∈ ids)
    (havail : SubscribeService.isAvailable now user = true) :
    ServerService.isAvailableUser now ids user = true := by
  simp only [SubscribeService.isAvailable, Bool.and_eq_true, Bool.not_eq_true',
    decide_eq_true_eq] at havail
  obtain ⟨⟨⟨⟨hban, -⟩, -⟩, htraffic⟩, hexp⟩ := havail
  have hserved : ServerService.notExpired now user.expired_at = true := by
    unfold SubscribeService.notExpired at hexp
    unfold ServerService.notExpired
    cases he : user.expired_at with
    | none => rfl
    | some e =>
        rw [he] at hexp
        have hlt : now < e := of_decide_eq_true hexp
        exact decide_eq_true hlt.le
  simp [ServerService.isAvailableUser, ServerService.isCandidate, hg, hmem, htraffic, hserved, hban]

end

/-- **When a user who sees a node is authorised on it**: a node on the page of an available
    user has the user among its own users at that time exactly when it can ask for them. -/
theorem visible_node_serves_user {db : Database} {node : ServerV2Node} {servers : List JsonDict}
    {ss : Session Tbl} (early : User → Bool) (huser : user ∈ (db .users).rows)
    (hnode : node ∈ (db .server_v2node).rows) (hgroup : GroupIds rt node.group_id)
    (hrt : ∀ g, user.group_id = some g → ReadsDecimal rt g)
    (havail : SubscribeService.isAvailable now user = true)
    (hservers : (SubscribeService.getAvailableServers rt fm user).run ⟨db, now⟩ Session.fresh
      = (.ok servers, ss))
    (hlisted : ∃ server ∈ servers, dictGet server "id" = .int node.id) :
    (∃ users, (ServerService.getAvailableUsers rt early node.group_id).run ⟨db, now⟩ Session.fresh
        = (.ok users, Session.fresh) ∧
      ServerService.userToNodeDict user ∈ users) ↔
    UsersAskable rt early now db node.group_id := by
  obtain ⟨server, hserver, hid⟩ := hlisted
  obtain ⟨visible, hvisible, hid'⟩ := servers_of_visible havail hservers hserver
  obtain ⟨g, hg, hmem, hcontains⟩ := SubscribeService.mem_visibleNodes hvisible
  have hsame : visible = node := by
    refine (db .server_v2node).eq_of_key_eq hmem hnode ?_
    exact Json.int.inj (hid'.symm.trans hid)
  rw [hsame] at hcontains
  obtain ⟨ids, hids, hgmem⟩ := groupContains_intListCast (hrt g hg) hgroup hcontains
  rw [usersAskable_iff hids, run_getAvailableUsers hids (List.ne_nil_of_mem hgmem)]
  constructor
  · rintro ⟨users, hrun, -⟩
    split at hrun
    · cases hrun
    next hbind =>
    split at hrun
    · cases hrun
    next hsums => exact ⟨hbind, Bool.eq_false_of_not_eq_true hsums⟩
  · rintro ⟨hbind, hsums⟩
    rw [hbind, hsums]
    exact ⟨_, rfl, List.mem_map_of_mem
      (List.mem_filter.mpr ⟨huser, isAvailableUser_of_isAvailable hg hgmem havail⟩)⟩

/-- An interpreter that reads `1` as JSON. -/
def oneReader : Runtime :=
  Utc.runtime (fun text => if text = "1" then some (.int 1) else none) (fun _ _ => none) []

/-- A node for the given groups. -/
def groupNode (group_id : Json) : ServerV2Node :=
  { id := 7, group_id := group_id, name := "n", host := "h", port := "443", server_port := 443,
    rate := "1", «show» := true, protocol := "vless", tls := 0, network := "tcp" }

/-- A node for the groups 1 and 2. -/
def sharedNode : ServerV2Node := groupNode (.str "1, 2")

/-- A node for the group 1, and for one that no user can be in. -/
def largeNode : ServerV2Node := groupNode (.arr [.int 1, .int 3000000000])

/-- The node, and a user of group 1. -/
def nodeAndUser (node : ServerV2Node) : Database := Database.empty.apply [
  .put Tbl.users lastSecond, .put Tbl.server_v2node node]

/-- A node whose groups have the group 1 among them is visible. -/
theorem visibleNodes_groupNode {raw : Json}
    (h : ServerV2NodeRepository.groupContains oneReader raw 1 = true) :
    SubscribeService.visibleNodes oneReader (nodeAndUser (groupNode raw)) (some 1)
      = [groupNode raw] := by
  have hrows : ((nodeAndUser (groupNode raw)) .server_v2node).rows.filter
      (fun n : ServerV2Node => n.show) = [groupNode raw] := rfl
  unfold SubscribeService.visibleNodes
  dsimp only
  rw [hrows, List.mergeSort_singleton]
  exact List.filter_cons_of_pos h

/-- The user sees it on the page. -/
theorem groupNode_listed {raw : Json}
    (h : ServerV2NodeRepository.groupContains oneReader raw 1 = true) :
    ∃ servers ss, (SubscribeService.getAvailableServers oneReader plainFormats lastSecond).run
        ⟨nodeAndUser (groupNode raw), 1690000000⟩ Session.fresh = (.ok servers, ss) ∧
      ∃ server ∈ servers, dictGet server "id" = .int 7 := by
  obtain ⟨dict, hdict⟩ : ∃ dict, SubscribeService.nodeToSubscribeDict oneReader plainFormats
      (groupNode raw) lastSecond.uuid = .ok dict := ⟨_, rfl⟩
  have hdicts : [groupNode raw].mapM (fun node =>
      SubscribeService.nodeToSubscribeDict oneReader plainFormats node lastSecond.uuid)
        = .ok [dict] := by
    rw [List.mapM_cons, hdict]
    rfl
  unfold SubscribeService.getAvailableServers time
  simp only [Prog.bind_eq, Prog.run_clock_bind]
  rw [if_neg (by decide), Prog.run_bind, SubscribeService.run_listVisibleByGroup]
  show ∃ servers ss, (Prog.bind (liftExcept ((SubscribeService.visibleNodes oneReader
    (nodeAndUser (groupNode raw)) (some 1)).mapM _)) _).run _ _ = _ ∧ _
  rw [visibleNodes_groupNode h, hdicts]
  exact ⟨[dict], _, rfl, dict, List.mem_cons_self, SubscribeService.nodeToSubscribeDict_id hdict⟩

/-- The interpreter reads the decimal notation of the user's group. -/
theorem oneReader_readsDecimal {g : Int} (h : lastSecond.group_id = some g) :
    ReadsDecimal oneReader g := by
  cases h
  exact ⟨by decide, fun _ => by decide, rfl⟩

/-- The user sees the node and is one of its users. -/
theorem visible_node_serves_user_shared :
    ∃ users, (ServerService.getAvailableUsers oneReader (fun _ => true) sharedNode.group_id).run
        ⟨nodeAndUser sharedNode, 1690000000⟩ Session.fresh = (.ok users, Session.fresh) ∧
      ServerService.userToNodeDict lastSecond ∈ users := by
  obtain ⟨servers, ss, hrun, hlisted⟩ := @groupNode_listed (.str "1, 2") (by decide)
  have hids : intListCast oneReader sharedNode.group_id = .ok [1, 2] := by decide
  refine (visible_node_serves_user (fun _ => true) List.mem_cons_self List.mem_cons_self ?_
    (fun g => oneReader_readsDecimal) (by decide) hrun hlisted).mpr ⟨?_, ?_, ?_⟩
  · refine .commas _ (by decide) rfl ?_
    intro item hitem
    have hitems : item ∈ ["1", "2"] := hitem
    rcases List.mem_cons.mp hitems with rfl | h
    · exact ⟨1, by decide, by decide⟩
    · rw [List.mem_singleton.mp h]
      exact ⟨2, by decide, by decide⟩
  · intro ids hread
    rw [hids] at hread
    cases hread
    decide
  · intro ids hread
    rw [hids] at hread
    cases hread
    decide
  · intro ids _ u hu _
    rw [List.mem_singleton.mp hu]
    decide

/-- **One group id that the column does not hold**: the node is on the page of the available
    user, and the query for its users is refused, so nobody is authorised on it. -/
theorem large_group_serves_nobody :
    lastSecond ∈ (nodeAndUser largeNode .users).rows ∧
      largeNode ∈ (nodeAndUser largeNode .server_v2node).rows ∧
      GroupIds oneReader largeNode.group_id ∧
      SubscribeService.isAvailable 1690000000 lastSecond = true ∧
      (∃ servers ss, (SubscribeService.getAvailableServers oneReader plainFormats lastSecond).run
          ⟨nodeAndUser largeNode, 1690000000⟩ Session.fresh = (.ok servers, ss) ∧
        ∃ server ∈ servers, dictGet server "id" = .int largeNode.id) ∧
      ∀ early, (ServerService.getAvailableUsers oneReader early largeNode.group_id).run
        ⟨nodeAndUser largeNode, 1690000000⟩ Session.fresh
          = (.error (.other "DBAPIError"), Session.fresh) := by
  have hids : intListCast oneReader largeNode.group_id = .ok [1, 3000000000] := by decide
  have hbind : bindIntegers [1, 3000000000] 1 = .error (.other "DBAPIError") := by decide
  refine ⟨List.mem_cons_self, List.mem_cons_self, .list _ ?_, by decide,
    groupNode_listed (by decide), fun early => ?_⟩
  swap
  · rw [run_getAvailableUsers hids (by decide), hbind]
  intro item hitem
  rcases List.mem_cons.mp hitem with rfl | h
  · exact Int.one_pos
  · rw [List.mem_singleton.mp h]
    exact (by decide : (0 : Int) < 3000000000)

end PyBoard
