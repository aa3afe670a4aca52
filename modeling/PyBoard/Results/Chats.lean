/-
  PyBoard.Results.Chats — the Telegram account of a user.

  The command `/bind` refuses an account that has a chat already, but not a chat that has an
  account.  So a chat stands for one account in the runs in which no `/bind` that changes an
  account comes from a chat that another one carries (`chats_stay_apart`): then every
  look-up by the chat answers, and `/unbind` takes back what `/bind` did.  A chat that binds two
  accounts can do nothing any more (`chat_binds_two_accounts`).
-/
import PyBoard.Python.Utc
import PyBoard.Relational.Checked
import PyBoard.Relational.Rows
import PyBoard.Relational.Serial
import PyBoard.Specs.Telegram

namespace PyBoard

open Relational TelegramService

variable {rt : Runtime} {lib : BotLibraries}

/-! ## §1. Commands. -/

/-- The requests that change the chat of an account. -/
inductive ChatOp
  | webhook (message_id : Int) (access_token : String) (payload : JsonDict)
  | unbindTelegram (user_id : Int)

variable (rt lib) in
def ChatOp.prog : ChatOp → Db Unit
  | .webhook message_id access_token payload => do
      let _calls ← TelegramService.handleWebhook rt lib message_id access_token payload
  | .unbindTelegram user_id => do let _done ← UserService.unbindTelegram user_id

/-- The command of an update and the chat that it comes from. -/
def commandOf (rt : Runtime) (lib : BotLibraries) (payload : JsonDict) : Option (String × Json) :=
  match parseMessage (payloadField payload "message") with
  | .ok (some message) =>
    match parseCommand rt lib message.text, ticketReference lib message.reply_text with
    | .ok (command, _), .ok none => some (command, message.chat_id)
    | _, _ => none
  | _ => none

/-- The chat of a `/bind`. -/
def ChatOp.binds (rt : Runtime) (lib : BotLibraries) : ChatOp → Option Int
  | .webhook _ _ payload =>
    match commandOf rt lib payload with
    | some (command, .int chat) => if command = "/bind" then some chat else none
    | _ => none
  | .unbindTelegram _ => none

/-- Does no other account carry the chat of a `/bind` that has changed one?  Zero is no chat. -/
def freeChat (rt : Runtime) (lib : BotLibraries) (op : ChatOp) (s : State Tbl)
    (ss : Session Tbl) : Bool :=
  match op.binds rt lib with
  | none => true
  | some chat => ss.ws.all fun w => decide (w.table ≠ Tbl.users) || (decide (chat ≠ 0) &&
      (s.db .users).rows.all fun u : User =>
        decide (u.telegram_id ≠ some chat) || decide (w.rowId = ⟨Tbl.users, u.id⟩))

variable (rt lib) in
/-- A `/bind` that changes an account comes from a chat that no other one carries. -/
def bindsFree : Cond ChatOp Tbl := { Cond.any with commit := freeChat rt lib }

/-- No two users carry the same chat, and none carries zero. -/
structure ChatsApart (db : Database) : Prop where
  unique : ∀ u ∈ (db .users).rows, ∀ u' ∈ (db .users).rows, ∀ chat : Int,
    User.telegram_id u = some chat → User.telegram_id u' = some chat → u = u'
  nonzero : ∀ u ∈ (db .users).rows, User.telegram_id u ≠ some 0

theorem commandOf_eq_some {payload : JsonDict} {command : String} {chat_id : Json}
    (h : commandOf rt lib payload = some (command, chat_id)) : ∃ message args,
      parseMessage (payloadField payload "message") = .ok (some message) ∧
        parseCommand rt lib message.text = .ok (command, args) ∧
          ticketReference lib message.reply_text = .ok none ∧ message.chat_id = chat_id := by
  unfold commandOf at h
  split at h
  · next message hmessage =>
    split at h
    · next command' args hcommand hreference =>
      injection h with h
      obtain ⟨rfl, hchat⟩ := Prod.mk.inj h
      exact ⟨message, args, hmessage, hcommand, hreference, hchat⟩
    · cases h
  · cases h

theorem commandOf_of_message {payload : JsonDict} {message : Message} {command : String}
    {args : List String}
    (hmessage : parseMessage (payloadField payload "message") = .ok (some message))
    (hcommand : parseCommand rt lib message.text = .ok (command, args))
    (hreference : ticketReference lib message.reply_text = .ok none) :
    commandOf rt lib payload = some (command, message.chat_id) := by
  unfold commandOf
  rw [hmessage]
  dsimp only
  rw [hcommand, hreference]

/-! ## §2. What a request stores. -/

/-- The session has changed one account at most, and given it a chat of `chats` or none. -/
def Changes (chats : Int → Prop) (_s : State Tbl) (ws : List (Write Tbl)) : Prop :=
  ∃ id, ∀ w ∈ ws, w.table = Tbl.users →
    ∃ u : User, w = .put Tbl.users u ∧ u.id = id ∧ ∀ chat, u.telegram_id = some chat → chats chat

/-- The session has changed no account. -/
abbrev LeavesUsers : State Tbl → List (Write Tbl) → Prop := Only fun w => w.table ≠ Tbl.users

variable {L : Type} {C : Contract L Tbl} {chats : Int → Prop}

theorem LeavesUsers.changes (s : State Tbl) (ws : List (Write Tbl)) (h : LeavesUsers s ws) :
    Changes chats s ws := ⟨0, fun w hw htable => absurd htable (h w hw)⟩

theorem changes_stable : C.Stable (Changes chats) := fun _ _ _ _ _ h => h

theorem leavesUsers_cache (key : String) : CacheOpen C LeavesUsers key where
  put _ _ _ _ _ h := h.append (show Tbl.runtime_cache ≠ .users by decide)
  del _ _ _ h := h.append (show Tbl.runtime_cache ≠ .users by decide)

/-- **One account is given a chat or none.** -/
theorem leads_changeAccount {user : User} {telegram_id : Option Int}
    (hchat : ∀ chat, telegram_id = some chat → chats chat) :
    C.Leads LeavesUsers (Changes chats)
      (updateRow .users user { user with telegram_id := telegram_id }) := by
  refine .bind ?_ (fun _ => steady_refresh changes_stable Tbl.users user) fun _ _ h => h
  refine .ite (fun hne => ?_) fun _ => .ret _ LeavesUsers.changes
  have hid : user.telegram_id ≠ telegram_id := by
    intro heq
    refine hne ?_
    rw [← heq]
  intro s ss hi hj
  refine (wp_bind _ _ _ _ _).mpr fun s' hr hi' _ => ?_
  rw [Stmt.exec_update]
  split
  · exact LeavesUsers.changes s' _ hj
  · next cur hcur =>
    refine ⟨user.id, fun w hw htable => ?_⟩
    rcases List.mem_append.mp hw with hw | hw
    · exact absurd htable (hj w hw)
    · rw [List.mem_singleton.mp hw]
      have hkey : User.id cur = user.id := Table.key_of_get? hcur
      refine ⟨_, rfl, hkey, fun chat hmerged => hchat chat ?_⟩
      -- the UPDATE changes the column, so the row has its new value
      have hcolumn : column user.telegram_id telegram_id cur.telegram_id = telegram_id :=
        if_neg hid
      rw [← hcolumn]
      exact hmerged

theorem leads_unbind (chat_id : Json) :
    C.Leads LeavesUsers (Changes chats) (unbind chat_id) := by
  refine .bind (steady_userOfChat (Only.stable _ _) chat_id) (fun found => ?_)
    LeavesUsers.changes
  cases found with
  | none => exact .ret _ LeavesUsers.changes
  | some user =>
      refine .bind (leads_changeAccount fun chat h => ?_) (fun _ => .ret _ fun _ _ h => h)
        fun _ _ h => h
      cases h

theorem leads_bind {chat_id : Json} (hchat : ∀ chat, chat_id = .int chat → chats chat)
    (raw_token : String) : C.Leads LeavesUsers (Changes chats) (bind rt lib chat_id raw_token) := by
  have hend : ∀ s ws, LeavesUsers s ws → Changes chats s ws := LeavesUsers.changes
  refine .bind (steady_liftExcept _) (fun user_token => ?_) hend
  refine .ite (fun _ => .throw _ hend) fun _ => ?_
  refine .bind (steady_selectOne (Only.stable _ _) _) (fun found => ?_) hend
  cases found with
  | none => exact .throw _ hend
  | some user =>
      refine .ite (fun _ => .throw _ hend) fun _ => ?_
      cases hid : telegramId chat_id with
      | error e => exact .throw _ hend
      | ok telegram_id =>
          refine .bind (leads_changeAccount fun chat h => hchat chat ?_)
            (fun _ => .ret _ fun _ _ h => h) fun _ _ h => h
          exact telegramId_eq_some (h ▸ hid)

/-- The chats that a request may give to an account. -/
def ChatOp.gives (rt : Runtime) (lib : BotLibraries) (op : ChatOp) (chat : Int) : Prop :=
  op.binds rt lib = some chat

/-- **What a request stores**: one account at most, with the chat of a `/bind` or none. -/
theorem ChatOp.spec (op : ChatOp) {s : State Tbl} (hi : C.Inv s) :
    wp C (op.prog rt lib)
      (fun r s' ss' => ∀ a, r = .ok a → Changes (op.gives rt lib) s' ss'.ws) s Session.fresh := by
  have hfresh : LeavesUsers s (Session.fresh : Session Tbl).ws := Only.nil _ s
  cases op with
  | webhook message_id access_token payload =>
      refine (wp_bind _ _ _ _ _).mpr (wp_mono (wp_handleWebhook
        (K := Changes (ChatOp.gives rt lib (.webhook message_id access_token payload)))
        (Only.stable _ _) leavesUsers_cache (fun message hmessage => ?_)
        (fun _ => LeavesUsers.changes) hi hfresh) ?_)
      · refine leads_handleMessage LeavesUsers.changes fun command args hcommand => ?_
        refine leads_dispatch (Only.stable _ _) leavesUsers_cache LeavesUsers.changes ?_ ?_ ?_
        · intro hbind hreference raw_token
          refine leads_bind (fun chat hchat => ?_) raw_token
          show ChatOp.binds rt lib _ = some chat
          unfold ChatOp.binds
          dsimp only
          rw [commandOf_of_message hmessage hcommand hreference, hchat]
          exact if_pos hbind
        · exact fun _ _ => leads_unbind _
        · intro number ticket_id _ _
          exact (steady_replyTicket (Only.stable _ _) (fun _ _ _ _ h => h.append
            (show Tbl.ticket ≠ .users by decide)) (fun _ _ _ _ h => h.append
            (show Tbl.ticket_message ≠ .users by decide)) _ _ _ _).leads LeavesUsers.changes
      · intro r s' ss' h
        cases r with
        | error e =>
            intro a ha
            cases ha
        | ok calls => exact fun _ _ => h calls rfl
  | unbindTelegram user_id =>
      have hleads : C.Leads LeavesUsers (Changes (ChatOp.gives rt lib (.unbindTelegram user_id)))
          (ChatOp.prog rt lib (.unbindTelegram user_id)) := by
        have hservice : C.Leads LeavesUsers
            (Changes (ChatOp.gives rt lib (.unbindTelegram user_id)))
            (UserService.unbindTelegram user_id) := by
          refine .bind (Contract.Steady.get (Only.stable _ _) _ _) (fun found => ?_)
            LeavesUsers.changes
          cases found with
          | none => exact .throw _ LeavesUsers.changes
          | some user =>
              refine .bind (leads_changeAccount fun chat h => ?_) (fun _ => .ret _ fun _ _ h => h)
                fun _ _ h => h
              cases h
        exact .bind hservice (fun _ => .ret _ fun _ _ h => h) fun _ _ h => h
      exact wp_mono (hleads s Session.fresh hi hfresh) fun _ _ _ h _ _ => h

/-! ## §3. Runs. -/

/-- **A commit keeps the chats apart.** -/
theorem ChatsApart.commit {op : ChatOp} {s : State Tbl} {ss : Session Tbl}
    (h : ChatsApart s.db) (hchanges : Changes (op.gives rt lib) s ss.ws)
    (hfree : freeChat rt lib op s ss = true) : ChatsApart (s.view ss) := by
  obtain ⟨id, hchanges⟩ := hchanges
  -- what is known of a row that the session has stored
  have hstored : ∀ u : User, .put Tbl.users u ∈ ss.ws → u.id = id ∧
      ∀ chat, u.telegram_id = some chat → chat ≠ 0 ∧
        ∀ o ∈ (s.db .users).rows, User.telegram_id o = some chat → o.id = id := by
    intro u hput
    obtain ⟨u', heq, hid, hgives⟩ := hchanges _ hput rfl
    cases heq
    refine ⟨hid, fun chat hchat => ?_⟩
    have hbinds : op.binds rt lib = some chat := hgives chat hchat
    unfold freeChat at hfree
    rw [hbinds] at hfree
    have hw := List.all_eq_true.mp hfree _ hput
    rw [Write.table_put, decide_eq_false (not_not.mpr rfl), Bool.false_or, Bool.and_eq_true,
      decide_eq_true_eq] at hw
    refine ⟨hw.1, fun o ho hcarries => ?_⟩
    have hrow := List.all_eq_true.mp hw.2 o ho
    rw [hcarries, decide_eq_false (not_not.mpr rfl), Bool.false_or, decide_eq_true_eq] at hrow
    have hkey : u.id = o.id := eq_of_heq (Sigma.mk.inj hrow).2
    rw [← hkey, hid]
  constructor
  · intro u hu u' hu' chat hchat hchat'
    have hsame : u.id = u'.id → u = u' := fun hkey => (s.view ss .users).eq_of_key_eq hu hu' hkey
    rcases mem_view hu with hold | hput
    · rcases mem_view hu' with hold' | hput'
      · exact h.unique u hold u' hold' chat hchat hchat'
      · obtain ⟨hid', hothers⟩ := hstored u' hput'
        exact hsame (((hothers chat hchat').2 u hold hchat).trans hid'.symm)
    · obtain ⟨hid, hothers⟩ := hstored u hput
      rcases mem_view hu' with hold' | hput'
      · exact hsame (hid.trans ((hothers chat hchat).2 u' hold' hchat').symm)
      · exact hsame (hid.trans (hstored u' hput').1.symm)
  · intro u hu hzero
    rcases mem_view hu with hold | hput
    · exact h.nonzero u hold hzero
    · exact ((hstored u hput).2 0 hzero).1 rfl

/-- The look-up by a chat finds no second account. -/
def ChatFound (s : State Tbl) : Prop := ∀ chat : Int,
  ((UserRepository.getByTelegramId (some chat)).run s Session.fresh).1
    ≠ .error (.other "MultipleResultsFound")

theorem ChatsApart.length_le {db : Database} (h : ChatsApart db) (chat : Int) :
    ((db .users).rows.filter fun u : User => u.telegram_id = some chat).length ≤ 1 := by
  refine (db .users).length_filter_le_one fun u hu hp u' hu' hp' => ?_
  exact h.unique u hu u' hu' chat (of_decide_eq_true hp) (of_decide_eq_true hp')

theorem ChatsApart.found {s : State Tbl} (h : ChatsApart s.db) : ChatFound s := by
  intro chat hmany
  unfold UserRepository.getByTelegramId at hmany
  rw [Prog.bind_eq, Prog.run_select_bind, State.view_fresh,
    scalarOneOrNone_of_length (h.length_le chat)] at hmany
  cases hmany

/-! ## §4. Binding and unbinding. -/

/-- An update that is handled alone, in a transaction of its own. -/
abbrev delivered (rt : Runtime) (lib : BotLibraries) (message_id : Int) (access_token : String)
    (payload : JsonDict) (s : State Tbl) : State Tbl :=
  (handleWebhook rt lib message_id access_token payload).serve s

/-- **`/unbind` after `/bind` takes it back**: if the `/bind` of a chat that nobody carries changes
    an account, and the `/unbind` of the chat goes through while the accounts are as they were
    left, the accounts are those before the `/bind`. -/
def UnbindRestores (rt : Runtime) (lib : BotLibraries) (s : State Tbl) : Prop :=
  ∀ (m m' : Int) (token token' : String) (payload payload' : JsonDict) (chat : Int)
    (s' : State Tbl),
    (∀ u ∈ (s.db .users).rows, User.telegram_id u ≠ some chat) →
    commandOf rt lib payload = some ("/bind", .int chat) →
    (delivered rt lib m token payload s).db .users ≠ s.db .users →
    s'.db .users = (delivered rt lib m token payload s).db .users →
    commandOf rt lib payload' = some ("/unbind", .int chat) →
    (∃ calls ss, (handleWebhook rt lib m' token' payload').run s' Session.fresh
      = (.ok calls, ss)) →
    (delivered rt lib m' token' payload' s').db .users = s.db .users

variable {V : Table User.id}

/-- The accounts alone. -/
abbrev lone : Contract Unit Tbl := Contract.solo

theorem showsUsers_cache (key : String) : CacheOpen lone (Shows Tbl.users V) key where
  put _ _ _ _ _ h := h.other (show Tbl.runtime_cache ≠ .users by decide)
  del _ _ _ h := h.other (show Tbl.runtime_cache ≠ .users by decide)

/-- The accounts are `V`, or one without a chat has been given one. -/
def Bound (V : Table User.id) (chat : Int) (s : State Tbl) (ws : List (Write Tbl)) : Prop :=
  Shows Tbl.users V s ws ∨ ∃ user : User, V.get? user.id = some user ∧
    user.telegram_id.getD 0 = 0 ∧ telegramId (.int chat) = .ok (some chat) ∧
      Shows Tbl.users (V.put { user with telegram_id := some chat }) s ws

theorem leads_bound (chat : Int) (raw_token : String) :
    lone.Leads (Shows Tbl.users V) (Bound V chat) (bind rt lib (.int chat) raw_token) := by
  have hend : ∀ s ws, Shows Tbl.users V s ws → Bound V chat s ws := fun _ _ h => Or.inl h
  refine .bind (steady_liftExcept _) (fun user_token => ?_) hend
  refine .ite (fun _ => .throw _ hend) fun _ => ?_
  refine leads_selectOne (t := Tbl.users) Shows.stable (fun _ _ h => h) hend (.throw _ hend)
    fun user hmem _ => ?_
  have hget : V.get? user.id = some user := Table.get?_of_mem hmem
  refine .ite (fun _ => .throw _ hend) fun hunbound => ?_
  cases hid : telegramId (.int chat) with
  | error e => exact .throw _ hend
  | ok telegram_id =>
      have hchat := telegramId_int hid
      subst hchat
      refine .bind (leads_updateRow (t := Tbl.users) hget rfl) (fun _ => .ret _ ?_) ?_
      · exact fun s ws h => Or.inr ⟨user, hget, not_not.mp hunbound, hid, h⟩
      · exact fun s ws h => Or.inr ⟨user, hget, not_not.mp hunbound, hid, h⟩

/-- The chat of one account is taken from it. -/
theorem leads_unbound {user : User} {chat : Int} (hget : V.get? user.id = some user)
    (honly : ∀ u ∈ V.rows, User.telegram_id u = some chat → u = user)
    (hchat : user.telegram_id = some chat) (hid : telegramId (.int chat) = .ok (some chat)) :
    lone.Leads (Shows Tbl.users V) (Shows Tbl.users (V.put { user with telegram_id := none }))
      (unbind (.int chat)) := by
  have hrows : V.rows.filter (fun u : User => u.telegram_id = some chat) = [user] :=
    Table.filter_eq_singleton _ (Table.mem_of_get? hget) (decide_eq_true hchat)
      fun u hu hp => honly u hu (of_decide_eq_true hp)
  unfold unbind userOfChat UserRepository.getByTelegramId
  rw [hid]
  show lone.Leads _ _ (Prog.bind (Prog.bind (Prog.select Tbl.users
    fun u : User => u.telegram_id = some chat) scalarOneOrNone) _)
  rw [Prog.bind_assoc]
  refine Shows.select_bind Shows.stable (fun _ _ h => h) ?_
  rw [hrows]
  show lone.Leads _ _ (Prog.bind (updateRow .users user { user with telegram_id := none })
    fun _ => Prog.ret [BotCall.sendMessage (.int chat) "解绑成功"])
  exact .bind (leads_updateRow (t := Tbl.users) hget rfl) (fun _ => .ret _ fun _ _ h => h)
    fun _ _ h => h

/-- A message that is a command, and no reply to a ticket, makes what its command makes. -/
theorem leads_command {K : State Tbl → List (Write Tbl) → Prop} {payload : JsonDict}
    {command : String} {chat_id : Json} {message_id : Int}
    (hcommand : commandOf rt lib payload = some (command, chat_id))
    (hrun : ∀ args, lone.Leads (Shows Tbl.users V) K (runCommand rt lib chat_id command args))
    {message : Message}
    (hmessage : parseMessage (payloadField payload "message") = .ok (some message)) :
    lone.Leads (Shows Tbl.users V) K (handleMessage rt lib message_id message) := by
  obtain ⟨message', args, hmessage', hparse, hreference, hchat⟩ := commandOf_eq_some hcommand
  rw [hmessage] at hmessage'
  cases hmessage'
  subst hchat
  unfold handleMessage
  rw [hparse]
  have hdispatch : lone.Leads (Shows Tbl.users V) K
      (dispatch rt lib message_id message (rt.str message.text) command args) := by
    unfold dispatch
    rw [hreference]
    exact hrun args
  refine .tryCatch hdispatch (fun e => ?_) fun _ _ h => h
  unfold answerException
  exact .ite (fun _ => .throw _ fun _ _ h => h) fun _ => .ret _ fun _ _ h => h

/-- **A command that goes through alone** leaves what it makes of the accounts. -/
theorem run_command {K : State Tbl → List (Write Tbl) → Prop} {s : State Tbl}
    {payload : JsonDict} {command : String} {chat_id : Json} {message_id : Int} {token : String}
    (hcommand : commandOf rt lib payload = some (command, chat_id))
    (hrun : ∀ args, lone.Leads (Shows Tbl.users (s.db .users)) K
      (runCommand rt lib chat_id command args))
    {calls : List BotCall} {ss : Session Tbl}
    (hok : (handleWebhook rt lib message_id token payload).run s Session.fresh = (.ok calls, ss)) :
    K s ss.ws := by
  have hnone : parseMessage (payloadField payload "message") ≠ .ok none := by
    intro hnone
    obtain ⟨message, -, hmessage, -⟩ := commandOf_eq_some hcommand
    rw [hnone] at hmessage
    cases hmessage
  have hspec : wp lone (handleWebhook rt lib message_id token payload)
      (fun r s' ss' => ∀ calls, r = .ok calls → K s' ss'.ws) s Session.fresh :=
    wp_handleWebhook Shows.stable showsUsers_cache
      (fun message hmessage => leads_command hcommand hrun hmessage)
      (fun h => absurd h hnone) trivial rfl
  have hend := wp_run (C := lone) trivial (fun _ _ => rfl) hspec
  rw [hok] at hend
  exact hend calls rfl

/-- **Unbinding takes back what binding did.** -/
theorem ChatsApart.restores {s : State Tbl} (h : ChatsApart s.db) : UnbindRestores rt lib s := by
  intro m m' token token' payload payload' chat s' hfree hbind hchanged hsame hunbind hok'
  -- the command has given the chat to an account without one
  have hbound : Bound (s.db .users) chat s
      ((handleWebhook rt lib m token payload).run s Session.fresh).2.ws := by
    rcases hrun : (handleWebhook rt lib m token payload).run s Session.fresh with ⟨e | calls, ss⟩
    · refine absurd ?_ hchanged
      unfold delivered
      rw [Prog.serve_error (e := e) (by rw [hrun])]
    · exact run_command hbind (fun args => leads_bound chat _) hrun
  have hview : (delivered rt lib m token payload s).db .users
      = s.db.apply ((handleWebhook rt lib m token payload).run s Session.fresh).2.ws .users := by
    rcases hrun : (handleWebhook rt lib m token payload).run s Session.fresh with ⟨e | calls, ss⟩
    · refine absurd ?_ hchanged
      unfold delivered
      rw [Prog.serve_error (e := e) (by rw [hrun])]
    · unfold delivered
      rw [Prog.serve_ok hrun]
      rfl
  rcases hbound with hleft | ⟨user, hget, hzero, hid, hput⟩
  · exact absurd (hview.trans hleft) hchanged
  have hput' : s'.db .users = (s.db .users).put { user with telegram_id := some chat } :=
    hsame.trans (hview.trans hput)
  have hnone : user.telegram_id = none := by
    cases hcarried : user.telegram_id with
    | none => rfl
    | some carried =>
        rw [hcarried] at hzero
        have hcarries : user.telegram_id = some 0 := by rw [hcarried, ← hzero]; rfl
        exact absurd hcarries (h.nonzero user (Table.mem_of_get? hget))
  -- so the account is the one that the second command finds
  have hget' : (s'.db .users).get? user.id = some { user with telegram_id := some chat } := by
    rw [hput']
    exact Table.get?_put_self (s.db .users) { user with telegram_id := some chat }
  have honly : ∀ u ∈ (s'.db .users).rows, User.telegram_id u = some chat →
      u = { user with telegram_id := some chat } := by
    intro u hu hcarries
    rw [hput'] at hu
    rcases Table.mem_put.mp hu with heq | ⟨hold, -⟩
    · exact heq
    · exact absurd hcarries (hfree u hold)
  obtain ⟨calls', ss', hrun'⟩ := hok'
  have hunbound : lone.Leads (Shows Tbl.users (s'.db .users)) (Shows Tbl.users
      ((s'.db .users).put { user with telegram_id := none })) (unbind (.int chat)) := by
    have hleads := leads_unbound hget' honly rfl hid
    exact hleads
  have hleft := run_command hunbind (fun _ => hunbound) hrun'
  have hback : (s.db .users).put { user with telegram_id := none } = s.db .users := by
    rw [← hnone]
    exact Table.put_eq_self hget
  have htwice : ((s.db .users).put { user with telegram_id := some chat }).put
      { user with telegram_id := none } = (s.db .users).put { user with telegram_id := none } :=
    Table.put_put _ rfl
  unfold delivered
  rw [Prog.serve_ok hrun']
  refine Eq.trans hleft ?_
  rw [hput']
  exact htwice.trans hback

/-- **A chat stands for one account** in every run in which no `/bind` that changes an account
    comes from a chat that another one carries: the look-ups answer, and an `/unbind` takes
    back what the `/bind` before it did. -/
theorem chats_stay_apart {db : Database} {now : Int} {c : Config ChatOp Tbl PyExc Unit}
    (h : ChatsApart db)
    (hrun : Reaches (ChatOp.prog rt lib) (bindsFree rt lib) (.quiet ⟨db, now⟩) c) :
    ChatsApart c.state.db ∧ ChatFound c.state ∧ UnbindRestores rt lib c.state := by
  have hkept : ChatsApart c.state.db :=
    hrun.keeping (E := fun op ss => Changes (op.gives rt lib) ⟨db, now⟩ ss.ws)
      (fun op s hi => op.spec hi) (fun op s ss hi hchanges hfree => hi.commit hchanges hfree) h
  exact ⟨hkept, hkept.found, hkept.restores⟩

/-- Two accounts with the tokens "a" and "b", and a bot. -/
def twoAccounts : Database
  | .users => ⟨[{ id := 1, email := "a@example.com", password := "", token := "a", uuid := "" },
      { id := 2, email := "b@example.com", password := "", token := "b", uuid := "" }],
      nodup_one_two⟩
  | .setting => ⟨[{ id := 1, key := "telegram_bot_token", value := "t", type := "str" }], nodup_one⟩
  | _ => Table.empty

theorem twoAccounts_apart : ChatsApart twoAccounts := by
  have hnone : ∀ u ∈ (twoAccounts .users).rows, User.telegram_id u = none := by
    intro u hu
    rcases List.mem_cons.mp hu with rfl | hu
    · rfl
    · rw [List.mem_singleton.mp hu]
  refine ⟨fun u hu _ _ chat hchat => ?_, fun u hu hzero => ?_⟩
  · rw [hnone u hu] at hchat
    cases hchat
  · rw [hnone u hu] at hzero
    cases hzero

/-- A text from a chat. -/
def saying (chat : Int) (text : String) : ChatOp :=
  .webhook 1 "t" [("message", .obj [("text", .str text), ("chat", .obj [("id", .int chat)])])]

/-- The chats of the accounts, and whether the look-up by the chat 5 answers. -/
def chatsOf (c : Config ChatOp Tbl PyExc Unit) : List (Option Int) × Bool :=
  ((c.state.db .users).rows.map User.telegram_id,
    ((UserRepository.getByTelegramId (some 5)).run c.state Session.fresh).1.isOk)

/-- An update that is handled in a number of statements. -/
def handling (chat : Int) (text : String) (statements : Nat) : List (Event ChatOp) :=
  .begin (saying chat text) :: List.replicate statements (.exec 0) ++ [.finish 0]

/-- Two chats bind an account each.  The first one lets go of its account and binds it again. -/
def boundAgain : List (Event ChatOp) :=
  handling 5 "/bind a" 9 ++ handling 6 "/bind b" 5 ++ handling 5 "/unbind" 5 ++
    handling 5 "/bind a" 5

/-- Each chat stands for one account. -/
theorem chats_stay_apart_once : ∃ c : Config ChatOp Tbl PyExc Unit,
    Reaches (ChatOp.prog Utc.bare plainBot) (bindsFree Utc.bare plainBot)
      (.quiet ⟨twoAccounts, 0⟩) c ∧
        (c.state.db .users).rows.map User.telegram_id = [some 5, some 6] ∧
          ChatsApart c.state.db ∧ ChatFound c.state ∧
            UnbindRestores Utc.bare plainBot c.state := by
  obtain ⟨c, -, hrun, -, hbound, -⟩ : ∃ c c' : Config ChatOp Tbl PyExc Unit,
      Reaches (ChatOp.prog Utc.bare plainBot) (bindsFree Utc.bare plainBot)
        (.quiet ⟨twoAccounts, 0⟩) c ∧
      Reaches (ChatOp.prog Utc.bare plainBot) (bindsFree Utc.bare plainBot) c c' ∧
      chatsOf c = ([some 5, some 6], true) ∧ chatsOf c' = ([none, some 6], true) :=
    Reaches.exists_of_steps boundAgain (handling 5 "/unbind" 5) chatsOf (by decide +kernel)
  exact ⟨c, hrun, (Prod.mk.inj hbound).1, chats_stay_apart twoAccounts_apart hrun⟩

/-- **A chat binds two accounts**, and the look-up by it raises from then on. -/
theorem chat_binds_two_accounts : ∃ c : Config ChatOp Tbl PyExc Unit,
    ChatsApart twoAccounts ∧
      Reaches (ChatOp.prog Utc.bare plainBot) Cond.any (.quiet ⟨twoAccounts, 0⟩) c ∧
        (c.state.db .users).rows.map User.telegram_id = [some 5, some 5] ∧
          ¬ChatsApart c.state.db ∧
            ¬∃ found ss, (UserRepository.getByTelegramId (some 5)).run c.state Session.fresh
              = (.ok found, ss) := by
  obtain ⟨c, -, hrun, -, hbound, -⟩ : ∃ c c' : Config ChatOp Tbl PyExc Unit,
      Reaches (ChatOp.prog Utc.bare plainBot) Cond.any (.quiet ⟨twoAccounts, 0⟩) c ∧
      Reaches (ChatOp.prog Utc.bare plainBot) Cond.any c c' ∧
      chatsOf c = ([some 5, some 5], false) ∧ chatsOf c' = ([some 5, some 5], false) :=
    Reaches.exists_of_steps (handling 5 "/bind a" 9 ++ handling 5 "/bind b" 5) [] chatsOf
      (by decide +kernel)
  obtain ⟨hchats, hanswered⟩ := Prod.mk.inj hbound
  have hraises : ¬∃ found ss, (UserRepository.getByTelegramId (some 5)).run c.state
      Session.fresh = (.ok found, ss) := by
    rintro ⟨found, ss, hfound⟩
    rw [hfound] at hanswered
    cases hanswered
  refine ⟨c, twoAccounts_apart, hrun, hchats, fun hapart => hraises ?_, hraises⟩
  unfold UserRepository.getByTelegramId
  rw [Prog.bind_eq, Prog.run_select_bind, State.view_fresh,
    scalarOneOrNone_of_length (hapart.length_le 5)]
  exact ⟨_, _, rfl⟩

end PyBoard
