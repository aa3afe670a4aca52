/-
  PyBoard.Results.UsedUsers — how many users can redeem an unlimited card.

  Each redemption appends its user to the list that the card keeps in one text column,
  next to the redemption rows.  A card without a limit takes the next user exactly as
  long as the text of the list fits into its column, and what the card adds into the
  columns of the user (`unlimited_card_redeemable_iff`), so with one-digit to four-digit
  identifiers it is full after some thousand users (`unlimited_card_fills_up`).
-/
import PyBoard.Python.Utc
import PyBoard.Specs.Giftcard
import PyBoard.Specs.Instant

namespace PyBoard

open Relational

variable {rt : Runtime} {s : State Tbl} {ss : Session Tbl}

/-! ## §1. The text of the list. -/

/-- A value of the SERIAL key of the users. -/
def IsUserId (i : Int) : Prop := 0 ≤ i ∧ i < 2 ^ 31

theorem IsUserId.append {user_id : Int} {ids : List Int} (h : IsUserId user_id)
    (hids : ∀ i ∈ ids, IsUserId i) : ∀ i ∈ ids ++ [user_id], IsUserId i := by
  intro i hi
  rcases List.mem_append.mp hi with hi | hi
  · exact hids i hi
  · exact List.mem_singleton.mp hi ▸ h

/-- **What the card relies on of `orjson`**: the text of a list of users, and that it reads
    its own texts. -/
structure OrjsonLists (rt : Runtime) : Prop where
  dumps : ∀ ids : List Int, (∀ i ∈ ids, IsUserId i) →
    rt.orjson_dumps_ints ids = "[" ++ ",".intercalate (ids.map toString) ++ "]"
  loads : ∀ ids : List Int, (∀ i ∈ ids, IsUserId i) →
    rt.orjson_loads (rt.orjson_dumps_ints ids) = some (.arr (ids.map .int))

/-- The length of the text of a list with a user: the digits, and one more character for
    each user and for the list. -/
def listLength (ids : List Int) : Nat := 1 + (ids.map fun i => (toString i).length + 1).sum

theorem length_intercalate (sep : List Char) (l : List Char) (ls : List (List Char)) :
    (sep.intercalate (l :: ls)).length
      = l.length + (ls.map fun x => sep.length + x.length).sum := by
  induction ls generalizing l with
  | nil => simp [List.intercalate]
  | cons x xs ih =>
    have hcons : sep.intercalate (l :: x :: xs) = l ++ sep ++ sep.intercalate (x :: xs) := by
      simp [List.intercalate, List.intersperse]
    rw [hcons, List.length_append, List.length_append, ih]
    simp only [List.map_cons, List.sum_cons]
    omega

/-- The length of the text of a list with a user. -/
theorem OrjsonLists.length_dumps (h : OrjsonLists rt) {ids : List Int} (hne : ids ≠ [])
    (hids : ∀ i ∈ ids, IsUserId i) :
    (rt.orjson_dumps_ints ids).length = listLength ids := by
  rw [h.dumps ids hids, ← String.length_toList, String.toList_append, String.toList_append,
    String.toList_intercalate]
  cases ids with
  | nil => exact absurd rfl hne
  | cons i ids =>
    rw [List.length_append, List.length_append, List.map_cons, List.map_cons, length_intercalate,
      listLength, List.map_cons, List.sum_cons, List.map_map, List.map_map]
    have hsum : (ids.map (((fun x => ",".toList.length + x.length) ∘ String.toList) ∘ toString)).sum
        = (ids.map fun i => (toString i).length + 1).sum := by
      congr 1
      refine List.map_congr_left fun j _ => ?_
      show 1 + (toString j).toList.length = (toString j).length + 1
      rw [String.length_toList]
      omega
    have hfirst : (toString i).toList.length = (toString i).length := String.length_toList
    rw [hsum, hfirst]
    show 1 + (_ + _) + 1 = _
    omega

/-- The integers of a list of users are all kept. -/
theorem usedUsers_ints {ids : List Int} (hids : ∀ i ∈ ids, IsUserId i) :
    GiftcardService.usedUsers rt (ids.map .int) = .ok ids := by
  induction ids with
  | nil => rfl
  | cons i ids ih =>
    have hpos : ¬i < 0 := not_lt.mpr (hids i List.mem_cons_self).1
    show (if i < 0 then _ else _) = _
    rw [if_neg hpos, ih fun j hj => hids j (List.mem_cons_of_mem i hj)]
    rfl

/-- The service reads back the list that it has written. -/
theorem OrjsonLists.parse (h : OrjsonLists rt) {ids : List Int} (hids : ∀ i ∈ ids, IsUserId i) :
    GiftcardService.parseUsedUsers rt (some (rt.orjson_dumps_ints ids)) = .ok ids := by
  have hne : rt.orjson_dumps_ints ids ≠ "" := by
    rw [h.dumps ids hids]
    intro hempty
    have hlist := congrArg String.toList hempty
    simp at hlist
  unfold GiftcardService.parseUsedUsers
  dsimp only
  rw [if_neg hne, h.loads ids hids]
  exact usedUsers_ints hids

/-! ## §2. One redemption. -/

/-- The user may redeem the card now, and has not done so. -/
structure Eligible (rt : Runtime) (code : String) (fresh : Fresh) (g : Giftcard) (user_id : Int)
    (s : State Tbl) : Prop where
  coded : GiftcardService.normalizeCode rt code = .ok g.code
  stored : (s.db .giftcard).get? g.id = some g
  only : ∀ g' ∈ (s.db .giftcard).rows, Giftcard.code g' = g.code → g' = g
  valid : GiftcardService.checkGiftcard g s.now = .ok ()
  isUser : IsUserId user_id
  unused : ∀ r ∈ (s.db .giftcard_redemption).rows, GiftcardRedemption.giftcard_id r = g.id →
    r.user_id ≠ user_id
  row_free : (s.db .giftcard_redemption).get? fresh.id = none
  gains : ∃ user user', (s.db .users).get? user_id = some user ∧ g.applies s.now s.db user user'

/-- A card that applies does so in every session that has not written yet. -/
theorem run_applyGiftcard {g : Giftcard} {user user' : User} (hws : ss.ws = [])
    (h : g.applies s.now s.db user user') :
    ∃ ids, (GiftcardService.applyGiftcard g user s.now).run s ss = (.ok user', ss.lock ids) := by
  unfold GiftcardService.applyGiftcard
  cases h.kind with
  | balance h1 => exact ⟨[], by simp [h1, Prog.run, Session.lock]⟩
  | duration h2 hpos => exact ⟨[], by simp [h2, not_le.mpr hpos, Prog.run, Session.lock]⟩
  | traffic h3 hpos => exact ⟨[], by simp [h3, not_le.mpr hpos, Prog.run, Session.lock]⟩
  | reset h4 => exact ⟨[], by simp [h4, Prog.run, Session.lock]⟩
  | plan h5 plan hid hplan hexpired =>
    have hfound : (s.view ss .plan).get? plan.id = some plan := by
      rw [State.view, hws]
      exact hplan
    refine ⟨[⟨Tbl.plan, plan.id⟩], ?_⟩
    dsimp only
    rw [if_neg (by omega), if_neg (by omega), if_neg (by omega), if_neg (by omega), if_pos h5,
      GiftcardService.applyPlanGiftcard, if_neg hexpired, hid]
    dsimp only
    rw [Prog.bind_eq, Prog.run_getForUpdate_found hfound]
    rfl

/-- The card after the next redemption, when its list holds `ids`. -/
def Giftcard.usedBy (rt : Runtime) (g : Giftcard) (ids : List Int) : Giftcard :=
  { g with
    used_user_ids := some (rt.orjson_dumps_ints ids)
    limit_use := g.limit_use.map (· - 1) }

/-- The row of a redemption. -/
def Giftcard.redemption (g : Giftcard) (id user_id : Int) : GiftcardRedemption :=
  { id := id, giftcard_id := g.id, user_id := user_id, code := g.code, type := g.type,
    value := g.value, plan_id := g.plan_id }

/-- The card of a code, under its lock. -/
theorem run_getByCodeForUpdate {g : Giftcard} (hg : (s.db .giftcard).get? g.id = some g)
    (honly : ∀ g' ∈ (s.db .giftcard).rows, Giftcard.code g' = g.code → g' = g) :
    ∃ ids, (GiftcardRepository.getByCodeForUpdate g.code).run s Session.fresh
      = (.ok (some g), Session.fresh.lock ids) := by
  have hfilter : (s.db .giftcard).rows.filter (fun g' : Giftcard => g'.code = g.code) = [g] :=
    Table.filter_eq_singleton _ (Table.mem_of_get? hg) (by simp)
      fun g' hg' hcode => honly g' hg' (by simpa using hcode)
  obtain ⟨ids, hrun⟩ : ∃ ids, (GiftcardRepository.getByCodeForUpdate g.code).run s Session.fresh
      = (scalarOneOrNone ((s.db .giftcard).rows.filter fun g' : Giftcard => g'.code = g.code)).run s
        (Session.fresh.lock ids) := ⟨_, rfl⟩
  rw [hfilter] at hrun
  exact ⟨ids, hrun⟩

/-- The rows of the user are looked up, and there are none. -/
theorem run_getByGiftcardAndUser {giftcard_id user_id : Int} (hws : ss.ws = [])
    (hnone : ∀ r ∈ (s.db .giftcard_redemption).rows,
      GiftcardRedemption.giftcard_id r = giftcard_id → r.user_id ≠ user_id) :
    (GiftcardRedemptionRepository.getByGiftcardAndUser giftcard_id user_id).run s ss
      = (.ok none, ss) := by
  have hfilter : (s.db .giftcard_redemption).rows.filter (fun r : GiftcardRedemption =>
      r.giftcard_id = giftcard_id && r.user_id = user_id) = [] := by
    refine List.filter_eq_nil_iff.mpr fun r hr hboth => ?_
    simp only [Bool.and_eq_true, decide_eq_true_eq] at hboth
    exact hnone r hr hboth.1 hboth.2
  have hview : s.view ss .giftcard_redemption = s.db .giftcard_redemption := by
    rw [State.view, hws]
    rfl
  unfold GiftcardRedemptionRepository.getByGiftcardAndUser
  rw [Prog.bind_eq, Prog.run_select_bind, hview, hfilter]
  rfl

/-- The updates of a redemption, and its row. -/
def Giftcard.redeemed (rt : Runtime) (g : Giftcard) (fresh : Fresh) (ids : List Int)
    (user user' : User) : Db Unit :=
  (saveUser user user').bind fun _ =>
    (GiftcardService.updateGiftcard g (g.usedBy rt (ids ++ [user.id]))).bind fun _ =>
      GiftcardService.recordRedemption fresh g user.id

/-- An eligible redemption gets as far as the updates. -/
theorem run_redeem_applied {fresh : Fresh} {user_id : Int} {code : String} {g : Giftcard}
    {ids : List Int} {user user' : User} (he : Eligible rt code fresh g user_id s)
    (hparse : GiftcardService.parseUsedUsers rt g.used_user_ids = .ok ids)
    (hnew : user_id ∉ ids) (hu : (s.db .users).get? user_id = some user)
    (happ : g.applies s.now s.db user user') :
    ∃ ss₁ : Session Tbl, ss₁.ws = [] ∧
      (GiftcardService.redeem rt fresh user_id code).run s Session.fresh
        = (g.redeemed rt fresh ids user user').run s ss₁ := by
  obtain ⟨ids₁, hcard⟩ := run_getByCodeForUpdate he.stored he.only
  set ss₂ : Session Tbl := (Session.fresh.lock ids₁).lock [⟨Tbl.users, user_id⟩] with hss₂
  obtain ⟨ids₃, happlied⟩ := @run_applyGiftcard s ss₂ g user user' rfl happ
  have hkey : user.id = user_id := Table.key_of_get? hu
  refine ⟨ss₂.lock ids₃, rfl, ?_⟩
  have hu₂ : (s.view (Session.fresh.lock ids₁) .users).get? user_id = some user := hu
  unfold GiftcardService.redeem Giftcard.redeemed
  rw [Prog.bind_eq, Prog.run_bind, run_liftExcept, he.coded]
  dsimp only
  rw [Prog.bind_eq, Prog.run_bind, hcard]
  dsimp only
  rw [Prog.bind_eq, UserRepository.getByIdForUpdate, Prog.run_getForUpdate_found hu₂]
  dsimp only
  rw [Prog.bind_eq, time, Prog.run_clock_bind, Prog.bind_eq, Prog.run_bind, run_liftExcept,
    he.valid]
  dsimp only
  rw [Prog.bind_eq, Prog.run_bind, run_getByGiftcardAndUser rfl he.unused]
  dsimp only
  rw [Prog.bind_eq, Prog.run_bind, run_liftExcept, hparse]
  dsimp only
  rw [if_neg hnew, Prog.bind_eq, Prog.run_bind, ← hss₂, happlied, hkey]
  rfl

/-- The redemption row is accepted when the user has none for the card. -/
theorem run_recordRedemption {fresh : Fresh} {user_id : Int} {g : Giftcard}
    (hview : s.view ss .giftcard_redemption = s.db .giftcard_redemption)
    (hfree : (s.db .giftcard_redemption).get? fresh.id = none)
    (hunused : ∀ r ∈ (s.db .giftcard_redemption).rows,
      GiftcardRedemption.giftcard_id r = g.id → r.user_id ≠ user_id) :
    (GiftcardService.recordRedemption fresh g user_id).run s ss
      = (.ok (), ss.write (.put .giftcard_redemption (g.redemption fresh.id user_id))) := by
  have haccepted : (s.view ss).refuses .giftcard_redemption (g.redemption fresh.id user_id)
      = false := by
    unfold DB.refuses
    rw [hview, List.any_eq_false]
    intro r hr hrefused
    rcases (Bool.or_eq_true _ _).mp hrefused with hkey | hboth
    · exact Table.get?_eq_none.mp hfree r hr (of_decide_eq_true hkey)
    · obtain ⟨hcard, huser⟩ := (Bool.and_eq_true _ _).mp hboth
      exact hunused r hr (of_decide_eq_true hcard) (of_decide_eq_true huser)
  have hinsert : (Stmt.insert Tbl.giftcard_redemption (g.redemption fresh.id user_id)).exec s ss
      = (true, ss.write (.put .giftcard_redemption (g.redemption fresh.id user_id))) := by
    rw [Stmt.exec_insert, haccepted]
    rfl
  have hrecord : GiftcardService.recordRedemption fresh g user_id
      = (Prog.insert Tbl.giftcard_redemption (g.redemption fresh.id user_id)).bind fun inserted =>
        if inserted = true then .ret ()
        else Prog.throw (BadRequestException "该礼品卡已被当前用户使用") := rfl
  rw [hrecord, Prog.run_insert_bind, hinsert]
  rfl

/-- The card and the row of the redemption, after the user. -/
theorem run_updateGiftcard_record {fresh : Fresh} {g : Giftcard} {ids : List Int} {user_id : Int}
    {user' : User} (hws : ss.ws = [.put .users user'])
    (hstored : (s.db .giftcard).get? g.id = some g)
    (hfree : (s.db .giftcard_redemption).get? fresh.id = none)
    (hunused : ∀ r ∈ (s.db .giftcard_redemption).rows,
      GiftcardRedemption.giftcard_id r = g.id → r.user_id ≠ user_id) :
    ∃ ss', ((GiftcardService.updateGiftcard g (g.usedBy rt ids)).bind fun _ =>
        GiftcardService.recordRedemption fresh g user_id).run s ss =
      if GiftcardService.USED_USER_IDS_LENGTH < (rt.orjson_dumps_ints ids).length then
        (.error (.other "DataError"), ss')
      else (.ok (), (ss.write (.put .giftcard (g.usedBy rt ids))).write
        (.put .giftcard_redemption (g.redemption fresh.id user_id))) := by
  have hlong : (g.usedBy rt ids).used_user_ids.any
      (fun text => GiftcardService.USED_USER_IDS_LENGTH < text.length)
      = decide (GiftcardService.USED_USER_IDS_LENGTH < (rt.orjson_dumps_ints ids).length) := rfl
  refine ⟨ss, ?_⟩
  unfold GiftcardService.updateGiftcard
  rw [Prog.run_bind, hlong]
  by_cases h : GiftcardService.USED_USER_IDS_LENGTH < (rt.orjson_dumps_ints ids).length
  · rw [if_pos (decide_eq_true h), if_pos h]
    rfl
  · rw [if_neg (by simpa using h), if_neg h]
    have hcard : (s.view ss .giftcard).get? g.id = some g := by
      rw [State.view, hws, DB.apply_filter]
      exact hstored
    have hsave : (save .giftcard g (g.usedBy rt ids)).run s ss
        = (.ok (), ss.write (.put .giftcard (g.usedBy rt ids))) :=
      run_save (t := .giftcard) hcard rfl
    have hrows : s.view (ss.write (.put .giftcard (g.usedBy rt ids))) .giftcard_redemption
        = s.db .giftcard_redemption := by
      rw [view_write_of_ne _ (by decide), State.view, hws, DB.apply_filter]
      rfl
    rw [hsave]
    dsimp only
    rw [run_recordRedemption hrows hfree hunused]

/-- **A redemption of an eligible user**, who is not on the list of the card: a column of the
    user or the column of the list refuses it, or it writes its three rows. -/
theorem run_redeem {fresh : Fresh} {user_id : Int} {code : String} {g : Giftcard}
    {ids : List Int} {user user' : User} (he : Eligible rt code fresh g user_id s)
    (hparse : GiftcardService.parseUsedUsers rt g.used_user_ids = .ok ids)
    (hnew : user_id ∉ ids) (hu : (s.db .users).get? user_id = some user)
    (happ : g.applies s.now s.db user user') :
    ∃ ss : Session Tbl, (GiftcardService.redeem rt fresh user_id code).run s Session.fresh =
        (if user.changeFits user' = true then
          if GiftcardService.USED_USER_IDS_LENGTH
              < (rt.orjson_dumps_ints (ids ++ [user_id])).length then .error (.other "DataError")
          else .ok ()
        else .error (.other "DBAPIError"), ss) ∧
      ((GiftcardService.redeem rt fresh user_id code).run s Session.fresh = (.ok (), ss) →
        ss.ws = [.put .users user', .put .giftcard (g.usedBy rt (ids ++ [user_id])),
          .put .giftcard_redemption (g.redemption fresh.id user_id)]) := by
  obtain ⟨ss₁, hws₁, hrun⟩ := run_redeem_applied he hparse hnew hu happ
  have hkey : user.id = user_id := Table.key_of_get? hu
  rw [hrun, Giftcard.redeemed, saveUser, hkey, Prog.run_bind]
  by_cases hroom : user.changeFits user' = true
  swap
  · rw [if_neg hroom, if_neg hroom]
    exact ⟨_, rfl, fun h => by cases h⟩
  rw [if_pos hroom, if_pos hroom]
  have hu₁ : (s.view ss₁ .users).get? user.id = some user := by
    rw [State.view, hws₁, hkey]
    exact hu
  have hsaved : (save .users user user').run s ss₁ = (.ok (), ss₁.write (.put .users user')) :=
    run_save hu₁ happ.id_eq.symm
  rw [hsaved]
  dsimp only
  obtain ⟨ss', hupdated⟩ := @run_updateGiftcard_record rt s (ss₁.write (.put .users user')) fresh g
    (ids ++ [user_id]) user_id user' (by simp [hws₁]) he.stored he.row_free he.unused
  rw [hupdated]
  split
  · exact ⟨_, rfl, fun h => by cases h⟩
  · exact ⟨_, rfl, fun _ => by simp [hws₁]⟩

/-! ## §3. One user after the other. -/

/-- **The users `ids` have redeemed the card**: those that it listed in `s₀`, and then one after
    the other.  In between anything may happen that leaves the row of the card as it is. -/
inductive RedeemedBy (rt : Runtime) (code : String) (g₀ : Giftcard) (s₀ : State Tbl) :
    List Int → State Tbl → Prop
  | start {ids : List Int} (h : (s₀.db .giftcard).get? g₀.id = some g₀)
      (hlisted : GiftcardService.parseUsedUsers rt g₀.used_user_ids = .ok ids)
      (hids : ∀ i ∈ ids, IsUserId i) : RedeemedBy rt code g₀ s₀ ids s₀
  | between {ids : List Int} {s s' : State Tbl} (h : RedeemedBy rt code g₀ s₀ ids s)
      (hcard : (s'.db .giftcard).get? g₀.id = (s.db .giftcard).get? g₀.id) :
      RedeemedBy rt code g₀ s₀ ids s'
  | redeemed {ids : List Int} {s : State Tbl} {ss : Session Tbl} {g : Giftcard} {fresh : Fresh}
      {user_id : Int} (h : RedeemedBy rt code g₀ s₀ ids s) (hid : g.id = g₀.id)
      (he : Eligible rt code fresh g user_id s) (hnew : user_id ∉ ids)
      (hrun : (GiftcardService.redeem rt fresh user_id code).run s Session.fresh = (.ok (), ss)) :
      RedeemedBy rt code g₀ s₀ (ids ++ [user_id]) (s.commit ss)

/-- What a redemption that is not refused leaves of the card. -/
theorem Eligible.card_after {fresh : Fresh} {user_id : Int} {code : String} {g : Giftcard}
    {ids : List Int} (he : Eligible rt code fresh g user_id s)
    (hparse : GiftcardService.parseUsedUsers rt g.used_user_ids = .ok ids) (hnew : user_id ∉ ids)
    (hrun : (GiftcardService.redeem rt fresh user_id code).run s Session.fresh = (.ok (), ss)) :
    (s.view ss .giftcard).get? g.id = some (g.usedBy rt (ids ++ [user_id])) := by
  obtain ⟨user, user', hu, happ⟩ := he.gains
  obtain ⟨ss', hrun', hws⟩ := run_redeem he hparse hnew hu happ
  have hsame : ss' = ss := by
    rw [hrun] at hrun'
    exact (congrArg Prod.snd hrun').symm
  have hview : s.view ss .giftcard = (s.db .giftcard).put (g.usedBy rt (ids ++ [user_id])) := by
    rw [State.view, ← hsame, hws (hsame ▸ hrun), DB.apply_filter]
    exact DB.put_same s.db _ _
  rw [hview]
  exact Table.get?_put_self _ (g.usedBy rt (ids ++ [user_id]))

/-- **The card lists its users**, and they are users. -/
theorem RedeemedBy.listed {code : String} {g₀ : Giftcard} {s₀ : State Tbl} {ids : List Int}
    (hjson : OrjsonLists rt) (h : RedeemedBy rt code g₀ s₀ ids s) :
    (∀ i ∈ ids, IsUserId i) ∧ ∃ g, (s.db .giftcard).get? g₀.id = some g ∧
      GiftcardService.parseUsedUsers rt g.used_user_ids = .ok ids := by
  induction h with
  | start h hlisted hids => exact ⟨hids, g₀, h, hlisted⟩
  | between h hcard ih =>
    obtain ⟨hids, g, hg, hparse⟩ := ih
    exact ⟨hids, g, hcard.trans hg, hparse⟩
  | @redeemed ids s ss g fresh user_id h hid he hnew hrun ih =>
    obtain ⟨hids, g', hg', hparse⟩ := ih
    have hsame : g = g' := by
      rw [← hid, he.stored] at hg'
      exact Option.some.inj hg'
    have hids' := he.isUser.append hids
    refine ⟨hids', g.usedBy rt (ids ++ [user_id]), ?_, hjson.parse hids'⟩
    rw [State.commit_db, ← hid]
    exact he.card_after (hsame ▸ hparse) hnew hrun

/-- The list of the card that is redeemed next. -/
theorem RedeemedBy.parse {code : String} {g₀ g : Giftcard} {s₀ : State Tbl} {ids : List Int}
    (hjson : OrjsonLists rt) (h : RedeemedBy rt code g₀ s₀ ids s) (hid : g.id = g₀.id)
    (hg : (s.db .giftcard).get? g.id = some g) :
    (∀ i ∈ ids, IsUserId i) ∧ GiftcardService.parseUsedUsers rt g.used_user_ids = .ok ids := by
  obtain ⟨hids, g', hg', hparse⟩ := h.listed hjson
  rw [← hid, hg] at hg'
  cases hg'
  exact ⟨hids, hparse⟩

/-- **When the next user can redeem the card**: exactly when the text of the list, with this
    user on it, fits into its column, and the user has room for what the card adds. -/
theorem unlimited_card_redeemable_iff {code : String} {g₀ g : Giftcard} {s₀ : State Tbl}
    {ids : List Int} {fresh : Fresh} {user_id : Int} (hjson : OrjsonLists rt)
    (h : RedeemedBy rt code g₀ s₀ ids s) (hid : g.id = g₀.id)
    (he : Eligible rt code fresh g user_id s) (hnew : user_id ∉ ids) :
    (∃ ss, (GiftcardService.redeem rt fresh user_id code).run s Session.fresh = (.ok (), ss)) ↔
      listLength (ids ++ [user_id]) ≤ GiftcardService.USED_USER_IDS_LENGTH ∧
        ∀ user, (s.db .users).get? user_id = some user → g.HasRoom s.now s.db user := by
  obtain ⟨hids, hparse⟩ := h.parse hjson hid he.stored
  obtain ⟨user, user', hu, happ⟩ := he.gains
  obtain ⟨ss, hrun, -⟩ := run_redeem he hparse hnew hu happ
  rw [hjson.length_dumps (by simp) (he.isUser.append hids)] at hrun
  constructor
  · rintro ⟨ss', hok⟩
    rw [hok] at hrun
    split at hrun
    · next hroom =>
      split at hrun
      · cases hrun
      · next hfits =>
        refine ⟨not_lt.mp hfits, fun stored hstored => ?_⟩
        rw [hu] at hstored
        cases hstored
        exact happ.changeFits_iff.mp hroom
    · cases hrun
  · rintro ⟨hfits, hroom⟩
    rw [if_pos (happ.changeFits_iff.mpr (hroom user hu)), if_neg (not_lt.mpr hfits)] at hrun
    exact ⟨ss, hrun⟩

/-! ## §4. A card that is full. -/

/-- `orjson.loads` of the text of a list of users. -/
def loadsUsers (text : String) : Option Json :=
  let items := (text.toList.drop 1).dropLast
  if items = [] then some (.arr [])
  else ((items.splitOn ',').mapM Utc.digits).map fun ids : List Nat =>
    .arr (ids.map fun n : Nat => .int n)

/-- An interpreter that reads the texts of such lists. -/
def Utc.lists : Runtime := Utc.runtime loadsUsers (fun _ _ => none) []

theorem toList_toString_nat (n : Nat) : (toString (n : Int)).toList = Nat.toDigits 10 n := by
  show (Nat.repr n).toList = _
  rw [Nat.toList_repr]

/-- The digits of a number are read back. -/
theorem Utc.digits_toDigits (n : Nat) : Utc.digits (Nat.toDigits 10 n) = some n := by
  have hdigits : ∀ c ∈ Nat.toDigits 10 n, c.isDigit = true :=
    fun c hc => Nat.isDigit_of_mem_toDigits (by decide) (by decide) hc
  have hvalue : (Nat.toDigits 10 n).foldl (fun n c => 10 * n + (c.toNat - '0'.toNat)) 0 = n := by
    rw [← Nat.ofDigitChars_eq_foldl]
    simp
  unfold Utc.digits
  rw [hvalue, if_neg]
  simpa [Nat.toDigits_ne_nil] using hdigits

/-- Every digit of a list of numbers is read back. -/
theorem mapM_digits_toDigits (ns : List Nat) :
    (ns.map (Nat.toDigits 10)).mapM Utc.digits = some ns := by
  induction ns with
  | nil => rfl
  | cons n ns ih =>
    rw [List.map_cons, List.mapM_cons, Utc.digits_toDigits, ih]
    rfl

theorem loadsUsers_dumps (ns : List Nat) :
    loadsUsers ("[" ++ ",".intercalate (ns.map fun n : Nat => toString (n : Int)) ++ "]")
      = some (.arr (ns.map fun n : Nat => .int n)) := by
  set texts := ns.map (Nat.toDigits 10) with htexts
  have hitems : ((("[" ++ ",".intercalate (ns.map fun n : Nat => toString (n : Int))
      ++ "]").toList.drop 1).dropLast) = [','].intercalate texts := by
    have hlists : List.map String.toList (ns.map fun n : Nat => toString (n : Int)) = texts := by
      rw [List.map_map, htexts]
      exact List.map_congr_left fun n _ => toList_toString_nat n
    rw [String.toList_append, String.toList_append, String.toList_intercalate, hlists]
    show ([','].intercalate texts ++ [']']).dropLast = _
    exact List.dropLast_concat
  unfold loadsUsers
  dsimp only
  rw [hitems]
  cases ns with
  | nil => rfl
  | cons n ns =>
    have hne : texts ≠ [] := by simp [htexts]
    have hcomma : ∀ l ∈ texts, ',' ∉ l := by
      intro l hl hmem
      obtain ⟨m, -, rfl⟩ := List.mem_map.mp hl
      have hdigit := Nat.isDigit_of_mem_toDigits (by decide) (by decide) hmem
      revert hdigit
      decide
    have hfirst : [','].intercalate texts ≠ [] := by
      intro hempty
      have hsplit := List.splitOn_intercalate ',' hcomma hne
      rw [hempty] at hsplit
      have hlast : [] ∈ texts := by
        rw [← hsplit]
        simp
      obtain ⟨m, -, hm⟩ := List.mem_map.mp hlast
      exact Nat.toDigits_ne_nil hm
    rw [if_neg hfirst, List.splitOn_intercalate ',' hcomma hne, htexts, mapM_digits_toDigits]
    rfl

theorem Utc.lists_orjson : OrjsonLists Utc.lists where
  dumps ids _ := rfl
  loads ids hids := by
    obtain ⟨ns, rfl⟩ : ∃ ns : List Nat, ids = ns.map fun n : Nat => (n : Int) := by
      refine ⟨ids.map Int.toNat, ?_⟩
      rw [List.map_map]
      conv_lhs => rw [← List.map_id ids]
      refine List.map_congr_left fun i hi => ?_
      exact (Int.toNat_of_nonneg (hids i hi).1).symm
    show loadsUsers ("[" ++ ",".intercalate ((ns.map fun n : Nat => (n : Int)).map Utc.strOfInt)
      ++ "]") = _
    rw [List.map_map, List.map_map]
    exact loadsUsers_dumps ns

/-- A user of a large site. -/
def crowdUser (k : Int) : User :=
  { id := k, email := toString k ++ "@example.com", password := "", token := toString k,
    uuid := "" }

/-- A card without a limit. -/
def openCard : Giftcard :=
  { id := 1, code := "CARD", type := 1, value := some 100, started_at := 0, ended_at := 4000000000 }

/-- The first `n` users. -/
def firstUsers (n : Nat) : List Int := (List.range n).map fun k : Nat => (k : Int) + 1

theorem firstUsers_succ (n : Nat) : firstUsers (n + 1) = firstUsers n ++ [(n : Int) + 1] := by
  rw [firstUsers, firstUsers, List.range_succ, List.map_append]
  rfl

theorem mem_firstUsers {n : Nat} {i : Int} : i ∈ firstUsers n ↔ 0 < i ∧ i ≤ n := by
  rw [firstUsers, List.mem_map]
  constructor
  · rintro ⟨k, hk, rfl⟩
    have hlt := List.mem_range.mp hk
    omega
  · rintro ⟨hpos, hle⟩
    exact ⟨(i - 1).toNat, List.mem_range.mpr (by omega), by omega⟩

theorem nodup_firstUsers (n : Nat) : (firstUsers n).Nodup :=
  List.nodup_range.map fun a b (h : (a : Int) + 1 = (b : Int) + 1) => by omega

/-- `m` users and the card. -/
def crowd (m : Nat) : State Tbl where
  now := 1700000000
  db
    | .users => ⟨(firstUsers m).map crowdUser, by
        have hids : ((firstUsers m).map crowdUser).map User.id = firstUsers m := by
          rw [List.map_map]
          exact List.map_id _
        exact hids.symm ▸ nodup_firstUsers m⟩
    | .giftcard => ⟨[openCard], List.nodup_singleton _⟩
    | _ => Table.empty

/-- The first `n` of them have redeemed the card. -/
structure Crowded (m n : Nat) (s : State Tbl) : Prop where
  redeemed : RedeemedBy Utc.lists "CARD" openCard (crowd m) (firstUsers n) s
  users : ∀ k : Int, n < k → k ≤ m → (s.db .users).get? k = some (crowdUser k)
  card : ∃ text, (s.db .giftcard).get? (1 : Int) = some { openCard with used_user_ids := text }
  only : ∀ g ∈ (s.db .giftcard).rows, Giftcard.id g = 1
  rows : ∀ r ∈ (s.db .giftcard_redemption).rows,
    GiftcardRedemption.id r ≤ n ∧ GiftcardRedemption.user_id r ≤ n
  now : s.now = 1700000000

theorem Crowded.zero (m : Nat) : Crowded m 0 (crowd m) where
  redeemed := .start
    (Table.get?_of_mem (t := (crowd m).db .giftcard) (List.mem_singleton_self openCard))
    rfl (by simp [firstUsers])
  users k hpos hle := by
    have hmem : crowdUser k ∈ ((crowd m).db .users).rows :=
      List.mem_map.mpr ⟨k, mem_firstUsers.mpr ⟨hpos, hle⟩, rfl⟩
    exact Table.get?_of_mem hmem
  card := ⟨none, Table.get?_of_mem (t := (crowd m).db .giftcard) (List.mem_singleton_self openCard)⟩
  only g hg := by
    rw [List.mem_singleton.mp hg]
    rfl
  rows r hr := by cases hr
  now := rfl

/-- The next user is eligible. -/
theorem Crowded.eligible {m n : Nat} (h : Crowded m n s) (hn : n < m) (hm : m < 2 ^ 31) :
    ∃ text, Eligible Utc.lists "CARD" ⟨n + 1, 0, ""⟩ { openCard with used_user_ids := text }
      (n + 1) s := by
  obtain ⟨text, hcard⟩ := h.card
  refine ⟨text, ?_⟩
  constructor
  · exact (by decide : GiftcardService.normalizeCode Utc.lists "CARD" = .ok "CARD")
  · exact hcard
  · intro g hg _
    have hfound : (s.db .giftcard).get? (Giftcard.id g) = some g := Table.get?_of_mem hg
    rw [h.only g hg, hcard] at hfound
    exact (Option.some.inj hfound).symm
  · rw [h.now]
    rfl
  · constructor <;> omega
  · intro r hr _
    have hle := (h.rows r hr).2
    omega
  · rw [Table.get?_eq_none]
    intro r hr hkey
    have hle := (h.rows r hr).1
    have hid : GiftcardRedemption.id r = (n : Int) + 1 := hkey
    omega
  · exact ⟨crowdUser (n + 1), { crowdUser (n + 1) with balance := 100 },
      h.users _ (by omega) (by omega), Giftcard.Kind.applies (.balance rfl)⟩

/-- **The next user redeems the card**, if the list fits. -/
theorem Crowded.next {m n : Nat} (h : Crowded m n s) (hn : n < m) (hm : m < 2 ^ 31)
    (hfits : listLength (firstUsers (n + 1)) ≤ GiftcardService.USED_USER_IDS_LENGTH) :
    ∃ s', Crowded m (n + 1) s' := by
  obtain ⟨text, he⟩ := h.eligible hn hm
  set g : Giftcard := { openCard with used_user_ids := text } with hg
  have hnew : (n : Int) + 1 ∉ firstUsers n := by
    intro hmem
    have hle := (mem_firstUsers.mp hmem).2
    omega
  have hid : g.id = openCard.id := rfl
  obtain ⟨hids, hparse⟩ := h.redeemed.parse Utc.lists_orjson hid he.stored
  have hu : (s.db .users).get? ((n : Int) + 1) = some (crowdUser (n + 1)) :=
    h.users _ (by omega) (by omega)
  set user' : User := { crowdUser (n + 1) with balance := 100 } with huser'
  have happ : g.applies s.now s.db (crowdUser (n + 1)) user' := Giftcard.Kind.applies (.balance rfl)
  obtain ⟨ss, hrun, hws⟩ := run_redeem he hparse hnew hu happ
  have hroom : (crowdUser (n + 1)).changeFits user' = true := by
    simp [User.changeFits, crowdUser, huser', integerFits]
  rw [Utc.lists_orjson.length_dumps (by simp) (he.isUser.append hids), ← firstUsers_succ,
    if_pos hroom, if_neg (not_lt.mpr hfits)] at hrun
  replace hws := hws hrun
  rw [← firstUsers_succ] at hws
  have hkey : user'.id = (n : Int) + 1 := rfl
  have husers : s.view ss .users = (s.db .users).put user' := by
    rw [State.view, hws, DB.apply_filter]
    exact DB.put_same s.db _ _
  have hcards : s.view ss .giftcard
      = (s.db .giftcard).put (g.usedBy Utc.lists (firstUsers (n + 1))) := by
    rw [State.view, hws, DB.apply_filter]
    exact DB.put_same s.db _ _
  have hrows : s.view ss .giftcard_redemption
      = (s.db .giftcard_redemption).put (g.redemption (n + 1) (n + 1)) := by
    rw [State.view, hws, DB.apply_filter]
    exact DB.put_same s.db _ _
  refine ⟨s.commit ss, ?_⟩
  constructor
  · rw [firstUsers_succ]
    exact .redeemed h.redeemed hid he hnew hrun
  · intro k hlow hhigh
    have hne : k ≠ user'.id := by
      rw [hkey]
      push_cast at hlow
      omega
    have hsame : ((s.db .users).put user').get? k = (s.db .users).get? k :=
      Table.get?_put_of_ne _ (r := user') hne
    rw [State.commit_db, husers]
    exact hsame.trans (h.users k (by push_cast at hlow; omega) hhigh)
  · refine ⟨some (Utc.lists.orjson_dumps_ints (firstUsers (n + 1))), ?_⟩
    rw [State.commit_db, hcards]
    exact Table.get?_put_self _ (g.usedBy Utc.lists (firstUsers (n + 1)))
  · intro g' hg'
    rw [State.commit_db, hcards, Table.mem_put] at hg'
    rcases hg' with rfl | ⟨hold, -⟩
    · rfl
    · exact h.only g' hold
  · intro r hr
    rw [State.commit_db, hrows, Table.mem_put] at hr
    rcases hr with rfl | ⟨hold, -⟩
    · exact ⟨by simp [Giftcard.redemption], by simp [Giftcard.redemption]⟩
    · obtain ⟨hid, huser⟩ := h.rows r hold
      constructor <;> push_cast <;> omega
  · exact h.now

/-- As many users as the column can list redeem the card, one after the other. -/
theorem Crowded.full {m : Nat} (hm : m < 2 ^ 31) {n : Nat} (hn : n ≤ m)
    (hfits : listLength (firstUsers n) ≤ GiftcardService.USED_USER_IDS_LENGTH) :
    ∃ s, Crowded m n s := by
  induction n with
  | zero => exact ⟨_, .zero m⟩
  | succ n ih =>
    have hshorter : listLength (firstUsers n) ≤ listLength (firstUsers (n + 1)) := by
      rw [firstUsers_succ, listLength, listLength, List.map_append, List.sum_append]
      omega
    obtain ⟨s, hs⟩ := ih (by omega) (hshorter.trans hfits)
    exact hs.next (by omega) hm hfits

theorem listLength_firstUsers (n : Nat) : listLength (firstUsers n)
    = 1 + ((List.range n).map fun k => (Nat.toDigits 10 (k + 1)).length + 1).sum := by
  rw [listLength, firstUsers, List.map_map]
  congr 2
  refine List.map_congr_left fun k _ => ?_
  show (toString ((k + 1 : Nat) : Int)).length + 1 = _
  rw [← String.length_toList, toList_toString_nat]

/-- **When a card without a limit is full**: `n` users have redeemed it, and the next one is
    refused if the list does not fit any more. -/
theorem Crowded.refuses {n : Nat} (hn : n + 1 < 2 ^ 31)
    (hfits : listLength (firstUsers n) ≤ GiftcardService.USED_USER_IDS_LENGTH)
    (hlong : GiftcardService.USED_USER_IDS_LENGTH < listLength (firstUsers (n + 1))) :
    ∃ (s : State Tbl) (text : Option String),
      RedeemedBy Utc.lists "CARD" openCard (crowd (n + 1)) (firstUsers n) s ∧
        Eligible Utc.lists "CARD" ⟨n + 1, 0, ""⟩ { openCard with used_user_ids := text } (n + 1) s ∧
        ¬∃ ss, (GiftcardService.redeem Utc.lists ⟨n + 1, 0, ""⟩ (n + 1) "CARD").run s Session.fresh
          = (.ok (), ss) := by
  obtain ⟨s, hs⟩ := Crowded.full hn (Nat.le_succ n) hfits
  obtain ⟨text, he⟩ := hs.eligible (Nat.lt_succ_self n) hn
  set g : Giftcard := { openCard with used_user_ids := text } with hg
  have hid : g.id = openCard.id := rfl
  have hnew : (n : Int) + 1 ∉ firstUsers n := by
    rw [mem_firstUsers]
    omega
  refine ⟨s, text, hs.redeemed, he, ?_⟩
  rintro ⟨ss, hrun⟩
  obtain ⟨hids, hparse⟩ := hs.redeemed.parse Utc.lists_orjson hid he.stored
  obtain ⟨user, user', hu, happ⟩ := he.gains
  obtain ⟨ss', hrefused, -⟩ := run_redeem he hparse hnew hu happ
  rw [hrun, Utc.lists_orjson.length_dumps (by simp) (he.isUser.append hids), ← firstUsers_succ,
    if_pos hlong] at hrefused
  split at hrefused <;> cases hrefused

/-- **A card without a limit that the users 1 to 3498 have redeemed** refuses the next one. -/
theorem unlimited_card_fills_up : openCard.limit_use = none ∧
    ∃ (s : State Tbl) (text : Option String),
      RedeemedBy Utc.lists "CARD" openCard (crowd 3499) (firstUsers 3498) s ∧
        Eligible Utc.lists "CARD" ⟨3499, 0, ""⟩ { openCard with used_user_ids := text } 3499 s ∧
        ¬∃ ss, (GiftcardService.redeem Utc.lists ⟨3499, 0, ""⟩ 3499 "CARD").run s Session.fresh
          = (.ok (), ss) := by
  have hfits : listLength (firstUsers 3498) ≤ GiftcardService.USED_USER_IDS_LENGTH := by
    rw [listLength_firstUsers]
    decide +kernel
  have hlong : GiftcardService.USED_USER_IDS_LENGTH < listLength (firstUsers (3498 + 1)) := by
    rw [listLength_firstUsers]
    decide +kernel
  exact ⟨rfl, Crowded.refuses (by decide) hfits hlong⟩

/-- The first user redeems it. -/
theorem unlimited_card_redeemed_first : ∃ ss,
    (GiftcardService.redeem Utc.lists ⟨1, 0, ""⟩ 1 "CARD").run (crowd 2) Session.fresh
      = (.ok (), ss) := by
  obtain ⟨text, he⟩ := (Crowded.zero 2).eligible (by decide) (by decide)
  have hnew : ((0 : Nat) : Int) + 1 ∉ firstUsers 0 := by
    rw [mem_firstUsers]
    omega
  refine (unlimited_card_redeemable_iff (g := { openCard with used_user_ids := text })
    Utc.lists_orjson (Crowded.zero 2).redeemed rfl he hnew).mpr ⟨by decide +kernel, ?_⟩
  intro user hu
  have hfirst : ((crowd 2).db .users).get? (((0 : Nat) : Int) + 1) = some (crowdUser 1) :=
    (Crowded.zero 2).users _ (by decide) (by decide)
  rw [hfirst] at hu
  cases hu
  have htype : ({ openCard with used_user_ids := text } : Giftcard).type = 1 := rfl
  exact ⟨fun _ => Or.inr rfl, Giftcard.type_ne htype (by decide),
    Giftcard.type_ne htype (by decide), Giftcard.type_ne htype (by decide)⟩

end PyBoard
