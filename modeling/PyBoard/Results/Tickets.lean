/-
  PyBoard.Results.Tickets — one open ticket for each user.

  A ticket is opened only if its user has none that is open, but a reply of the staff opens a
  closed ticket again without looking.  So a user has at most one open ticket in the serial runs
  in which no such reply meets another open ticket of the same user (`one_open_ticket`), and
  one that does leaves two (`reply_opens_second_ticket`).
-/
import PyBoard.Python.Utc
import PyBoard.Relational.Serial
import PyBoard.Specs.Telegram
import PyBoard.Specs.Tickets

namespace PyBoard

open Relational TicketService TelegramService

variable {rt : Runtime} {lib : BotLibraries}

/-! ## §1. Requests. -/

/-- The requests that open, answer or close tickets, with the identifiers of their new rows. -/
inductive TicketOp
  | createTicket (id message_id user_id : Int) (data : TicketCreate)
  | createWithdrawTicket (id message_id user_id : Int) (data : TicketWithdraw)
  | replyUserTicket (message_id user_id ticket_id : Int) (data : TicketReply)
  | closeUserTicket (user_id ticket_id : Int)
  | replyAdminTicket (message_id admin_user_id ticket_id : Int) (data : TicketReply)
  | closeAdminTicket (ticket_id : Int)
  | webhook (message_id : Int) (access_token : String) (payload : JsonDict)

variable (rt lib) in
def TicketOp.prog : TicketOp → Db Unit
  | .createTicket id message_id user_id data => do
      let _detail ← TicketService.createTicket rt id message_id user_id data
  | .createWithdrawTicket id message_id user_id data => do
      let _detail ← TicketService.createWithdrawTicket rt id message_id user_id data
  | .replyUserTicket message_id user_id ticket_id data => do
      let _detail ← TicketService.replyUserTicket rt message_id user_id ticket_id data
  | .closeUserTicket user_id ticket_id => do
      let _closed ← TicketService.closeUserTicket user_id ticket_id
  | .replyAdminTicket message_id admin_user_id ticket_id data => do
      let _detail ← TicketService.replyAdminTicket rt message_id admin_user_id ticket_id data
  | .closeAdminTicket ticket_id => do let _closed ← TicketService.closeAdminTicket ticket_id
  | .webhook message_id access_token payload => do
      let _calls ← TelegramService.handleWebhook rt lib message_id access_token payload

/-- Whatever else happens opens no ticket. -/
def OpensNone (s s' : State Tbl) : Prop :=
  ∀ t' ∈ (s'.db .ticket).rows, Ticket.status t' = 0 →
    ∃ t ∈ (s.db .ticket).rows, Ticket.id t = t'.id ∧ t.user_id = t'.user_id ∧ t.status = 0

/-! ## §2. Replies of the staff. -/

/-- Does an account of the staff carry the chat? -/
def fromStaff (s : State Tbl) (chat_id : Json) : Bool :=
  (s.db .users).rows.any fun u : User =>
    decide (telegramId chat_id = .ok u.telegram_id) && (u.is_admin || u.is_staff)

/-- The ticket whose number a message of the staff carries. -/
def answeredBy (rt : Runtime) (lib : BotLibraries) (s : State Tbl) (message : Message) :
    Option Int :=
  match ticketReference lib message.reply_text with
  | .ok (some number) => if fromStaff s message.chat_id then rt.int_of_str number else none
  | _ => none

/-- The ticket that the staff answers with the request. -/
def ticketAnswered (rt : Runtime) (lib : BotLibraries) (e : Visit Tbl TicketOp) : Option Int :=
  match e.request with
  | .replyAdminTicket _ _ ticket_id data =>
      if rt.strip data.message = "" then none else some ticket_id
  | .webhook _ _ payload =>
      match parseMessage (payloadField payload "message") with
      | .ok (some message) => answeredBy rt lib e.before message
      | _ => none
  | _ => none

/-- Does the staff answer a closed ticket of a user who has an open one? -/
def opensSecond (rt : Runtime) (lib : BotLibraries) (e : Visit Tbl TicketOp) : Bool :=
  (e.before.db .ticket).rows.any fun t : Ticket =>
    ticketAnswered rt lib e = some t.id && decide (t.status ≠ 0) &&
      (e.before.db .ticket).rows.any fun o : Ticket => o.user_id = t.user_id && o.status = 0

variable {s : State Tbl}

theorem opensFirst_of_not_opensSecond {op : TicketOp} (h : opensSecond rt lib ⟨s, op⟩ = false)
    {ticket_id : Int} (hanswered : ticketAnswered rt lib ⟨s, op⟩ = some ticket_id) :
    OpensFirst (s.db .ticket) ticket_id := by
  intro t ht hid hclosed o ho huser hopen
  unfold opensSecond at h
  have hnot := List.any_eq_false.mp h t ht
  rw [hanswered, ← hid] at hnot
  refine hnot ?_
  rw [Bool.and_eq_true, Bool.and_eq_true]
  refine ⟨⟨decide_eq_true rfl, decide_eq_true hclosed⟩, List.any_eq_true.mpr ⟨o, ho, ?_⟩⟩
  rw [huser, hopen]
  simp

/-! ## §3. One request. -/

/-- The session sees the tickets and the accounts. -/
abbrev SeesBoth (U : Table Ticket.id) (V : Table User.id) (s : State Tbl)
    (ws : List (Write Tbl)) : Prop := Sees U s ws ∧ Shows Tbl.users V s ws

variable {U : Table Ticket.id} {V : Table User.id}

theorem seesBoth_stable : single.Stable (SeesBoth U V) := sees_stable.and Shows.stable

theorem seesBoth_cache (key : String) : CacheOpen single (SeesBoth U V) key where
  put row _ _ _ _ h := ⟨h.1.other (show Tbl.runtime_cache ≠ .ticket by decide),
    h.2.other (show Tbl.runtime_cache ≠ .users by decide)⟩
  del _ _ _ h := ⟨h.1.other (show Tbl.runtime_cache ≠ .ticket by decide),
    h.2.other (show Tbl.runtime_cache ≠ .users by decide)⟩

theorem sees_user (user : User) (s : State Tbl) (ws : List (Write Tbl)) (_ : single.Inv s)
    (h : Sees U s ws) : Sees U s (ws ++ [.put Tbl.users user]) :=
  h.other (show Tbl.users ≠ .ticket by decide)

/-- A message to the bot. -/
theorem leads_message {message_id : Int} {message : Message} (hone : OneOpenEach U)
    (hfirst : ∀ number ticket_id, ticketReference lib message.reply_text = .ok (some number) →
      rt.int_of_str number = some ticket_id →
      ∀ user ∈ V.rows, telegramId message.chat_id = .ok (User.telegram_id user) →
        user.is_admin ∨ user.is_staff → OpensFirst U ticket_id) :
    single.Leads (SeesBoth U V) TicketService.Apart (handleMessage rt lib message_id message) := by
  have hend : ∀ s ws, SeesBoth U V s ws → TicketService.Apart s ws :=
    fun s ws h => sees_apart hone s ws h.1
  refine leads_handleMessage hend fun command args _ => ?_
  refine leads_dispatch seesBoth_stable seesBoth_cache hend ?_ ?_ ?_
  · -- a command that changes an account leaves the tickets
    intro _ _ raw_token s ss hi hj
    exact (steady_bind sees_stable sees_user _ _).leads (sees_apart hone) s ss hi hj.1
  · intro _ _ s ss hi hj
    exact (steady_unbind sees_stable sees_user _).leads (sees_apart hone) s ss hi hj.1
  · intro number ticket_id hnumber hint
    refine leads_userOfChat seesBoth_stable (fun _ _ h => h.2) hend (.ret _ hend)
      fun user hmem hchat => ?_
    refine .ite (fun _ => .ret _ hend) fun hstaff => ?_
    intro s ss hi hj
    have hreply : single.Leads (Sees U) TicketService.Apart (Prog.bind
        (TicketService.replyAdminTicket rt message_id user.id ticket_id
          ⟨rt.str message.text⟩) fun _ => Prog.ret [BotCall.sendMessage message.chat_id
            ("#" ++ toString ticket_id ++ " 的工单已回复成功")]) := by
      refine .bind (leads_replyAdminTicket hone fun _ => ?_)
        (fun _ => .ret _ fun _ _ h => h) fun _ _ h => h
      exact hfirst number ticket_id hnumber hint user hmem hchat (not_not.mp hstaff)
    exact hreply s ss hi hj.1

/-- A request that returns from `s` leaves the open tickets apart. -/
def KeepsApart {α : Type} (s : State Tbl) (p : Db α) : Prop :=
  wp single p (fun r s' ss' => ∀ a, r = .ok a → TicketService.Apart s' ss'.ws) s Session.fresh

theorem KeepsApart.of_leads {α : Type} {p : Db α}
    (h : single.Leads (Sees (s.db .ticket)) TicketService.Apart p) : KeepsApart s p :=
  wp_mono (h s Session.fresh trivial rfl) fun _ _ _ hapart _ _ => hapart

/-- The answer of a request is dropped. -/
theorem KeepsApart.drop {α : Type} {p : Db α} (h : KeepsApart s p) :
    KeepsApart s (p.bind fun _ => .ret ()) := by
  refine (wp_bind _ _ _ _ _).mpr (wp_mono h ?_)
  intro r s' ss' hp
  cases r with
  | error e =>
      intro a ha
      cases ha
  | ok a => exact fun _ _ => hp a rfl

/-- An update of the bot. -/
theorem keepsApart_webhook (message_id : Int) (access_token : String) (payload : JsonDict)
    (hone : OneOpenEach (s.db .ticket))
    (hreply : opensSecond rt lib ⟨s, .webhook message_id access_token payload⟩ = false) :
    KeepsApart s (handleWebhook rt lib message_id access_token payload) := by
  refine wp_handleWebhook (J := SeesBoth (s.db .ticket) (s.db .users)) seesBoth_stable
    seesBoth_cache (fun message hparse => ?_) (fun _ s' ws h => sees_apart hone s' ws h.1)
    trivial ⟨rfl, rfl⟩
  refine leads_message hone fun number ticket_id hnumber hint user hmem hchat hstaff => ?_
  refine opensFirst_of_not_opensSecond hreply ?_
  have hfrom : fromStaff s message.chat_id = true := by
    refine List.any_eq_true.mpr ⟨user, hmem, ?_⟩
    rw [Bool.and_eq_true, Bool.or_eq_true]
    exact ⟨decide_eq_true hchat, hstaff⟩
  unfold ticketAnswered
  dsimp only
  rw [hparse]
  dsimp only
  unfold answeredBy
  rw [hnumber]
  dsimp only
  rw [if_pos hfrom, hint]

/-- **One request** keeps the open tickets apart, unless it opens a second one. -/
theorem TicketOp.serve_oneOpen (op : TicketOp) (hone : OneOpenEach (s.db .ticket))
    (hreply : opensSecond rt lib ⟨s, op⟩ = false) :
    OneOpenEach (((op.prog rt lib).serve s).db .ticket) := by
  have hspec : KeepsApart s (op.prog rt lib) := by
    cases op with
    | createTicket id message_id user_id data =>
        exact .drop (.of_leads (leads_createTicket id message_id user_id data hone))
    | createWithdrawTicket id message_id user_id data =>
        exact .drop (.of_leads (leads_createWithdrawTicket id message_id user_id data hone))
    | replyUserTicket message_id user_id ticket_id data =>
        exact .drop (.of_leads (leads_replyUserTicket message_id user_id ticket_id data hone))
    | closeUserTicket user_id ticket_id =>
        exact .drop (.of_leads (leads_closeUserTicket user_id ticket_id hone))
    | replyAdminTicket message_id admin_user_id ticket_id data =>
        refine .drop (.of_leads (leads_replyAdminTicket hone fun hmessage => ?_))
        exact opensFirst_of_not_opensSecond hreply (if_neg hmessage)
    | closeAdminTicket ticket_id => exact .drop (.of_leads (leads_closeAdminTicket ticket_id hone))
    | webhook message_id access_token payload =>
        exact .drop (keepsApart_webhook message_id access_token payload hone hreply)
  have hrun := wp_run (C := single) trivial (fun _ _ => rfl) hspec
  unfold Prog.serve
  rcases hresult : (op.prog rt lib).run s Session.fresh with ⟨e | a, ss⟩
  · exact hone
  · rw [hresult] at hrun
    exact hrun a rfl

/-! ## §4. Runs. -/

theorem OneOpenEach.wait {s' : State Tbl} (h : OneOpenEach (s.db .ticket))
    (hwait : OpensNone s s') :
    OneOpenEach (s'.db .ticket) := by
  intro a ha b hb hopen hopen' huser
  obtain ⟨t, ht, hid, htuser, htopen⟩ := hwait a ha hopen
  obtain ⟨t', ht', hid', htuser', htopen'⟩ := hwait b hb hopen'
  have heq : t = t' := h t ht t' ht' htopen htopen' (by rw [htuser, htuser', huser])
  refine (s'.db .ticket).eq_of_key_eq ha hb ?_
  show Ticket.id a = Ticket.id b
  rw [← hid, ← hid', heq]

/-- **At most one open ticket for each user**, in every serial run in which no reply of the staff
    opens a closed ticket of a user who has an open one. -/
theorem one_open_ticket {db : Database} {now : Int} {log : List (Visit Tbl TicketOp)}
    (hone : OneOpenEach (db .ticket))
    (hrun : Serial (TicketOp.prog rt lib) OpensNone ⟨db, now⟩ log s)
    (hreplies : ∀ e ∈ log, opensSecond rt lib e = false) : OneOpenEach (s.db .ticket) := by
  refine hrun.invariant (I := fun _ s => OneOpenEach (s.db .ticket))
    (Q := fun log => ∀ e ∈ log, opensSecond rt lib e = false) ?_ hone ?_ ?_ hreplies
  · exact fun e log h e' he' => h e' (List.mem_cons_of_mem _ he')
  · exact fun log s r h hone => r.serve_oneOpen hone (h ⟨s, r⟩ List.mem_cons_self)
  · exact fun log s s' hwait hone => OneOpenEach.wait hone hwait

/-- Nothing is stored. -/
def noTickets : State Tbl := ⟨fun _ => Table.empty, 0⟩

/-- Two tickets of a user, the first of which is closed. -/
def openAndClose : List TicketOp :=
  [.closeUserTicket 1 1, .createTicket 1 1 1 { subject := "A", message := "A" }]

/-- The requests, the newest first, and the state after them. -/
abbrev ticketRun (rs : List TicketOp) : List (Visit Tbl TicketOp) × State Tbl :=
  Prog.serveAll (TicketOp.prog Utc.bare plainBot) noTickets rs

/-- Two users.  The staff answers the closed ticket of one and the open ticket of the other, and
    the first one asks for another ticket. -/
def twoUsers : List TicketOp :=
  [.createTicket 5 3 1 { subject := "C", message := "C" }, .replyAdminTicket 4 9 2 ⟨"B"⟩,
    .replyAdminTicket 3 9 1 ⟨"B"⟩, .createTicket 2 2 2 { subject := "B", message := "B" }] ++
    openAndClose

/-- The first ticket is open again, and the other ticket of its user is refused. -/
theorem one_open_ticket_reply : ∃ log s,
    Serial (TicketOp.prog Utc.bare plainBot) OpensNone noTickets log s ∧ log.length = 6 ∧
      (s.db .ticket).rows.map (fun t : Ticket => (t.user_id, t.status)) = [(1, 0), (2, 0)] ∧
        OneOpenEach (s.db .ticket) := by
  have hrun := Serial.serveAll (TicketOp.prog Utc.bare plainBot) OpensNone noTickets twoUsers
  refine ⟨_, _, hrun, by decide +kernel, by decide +kernel,
    one_open_ticket (fun t ht => by cases ht) hrun ?_⟩
  have hall : (ticketRun twoUsers).1.all (fun e => !opensSecond Utc.bare plainBot e) = true := by
    decide +kernel
  exact fun e he => Bool.not_eq_true' _ |>.mp (List.all_eq_true.mp hall e he)

/-- **A reply of the staff leaves two open tickets**: the user closes a ticket, opens another
    one, and the staff answers the first. -/
theorem reply_opens_second_ticket : ∃ log s,
    Serial (TicketOp.prog Utc.bare plainBot) OpensNone noTickets log s ∧
      OneOpenEach (noTickets.db .ticket) ∧
        ((s.db .ticket).rows.filter fun t : Ticket => t.user_id = 1 && t.status = 0).length = 2 ∧
          ¬OneOpenEach (s.db .ticket) := by
  have hrun := Serial.serveAll (TicketOp.prog Utc.bare plainBot) OpensNone noTickets
    (.replyAdminTicket 3 9 1 ⟨"B"⟩ ::
      .createTicket 2 2 1 { subject := "B", message := "B" } :: openAndClose)
  have htwo : (((ticketRun (.replyAdminTicket 3 9 1 ⟨"B"⟩ ::
      .createTicket 2 2 1 { subject := "B", message := "B" } :: openAndClose)).2.db
        .ticket).rows.filter
        fun t : Ticket => t.user_id = 1 && t.status = 0).length = 2 := by decide +kernel
  refine ⟨_, _, hrun, fun t ht => (by cases ht), htwo, fun hone => ?_⟩
  exact absurd (htwo.symm.trans_le (hone.count_le 1)) (by decide)

end PyBoard
