/-
  PyBoard.Specs.Telegram — what the webhook of the bot does to a session.

  Before an update is handled, and for every command that only shows something, the webhook
  reads tables and writes the runtime cache alone.  What it makes of a session that bears
  this is decided by the commands `/bind` and `/unbind` and by the replies to tickets.

  Main results: `leads_dispatch`, `leads_handleMessage` and `wp_handleWebhook`.
-/
import PyBoard.Relational.Leads
import PyBoard.Services.Telegram
import PyBoard.Specs.Auth

namespace PyBoard.TelegramService

open Relational

variable {L : Type} {C : Contract L Tbl} {J K : State Tbl → List (Write Tbl) → Prop}
  {rt : Runtime} {lib : BotLibraries}

/-! ## §1. Requests that show something. -/

theorem telegramId_int {chat : Int} {telegram_id : Option Int}
    (h : telegramId (.int chat) = .ok telegram_id) : telegram_id = some chat := by
  unfold telegramId at h
  dsimp only at h
  split at h
  · cases h
    rfl
  · cases h

theorem telegramId_eq_some {chat_id : Json} {chat : Int}
    (h : telegramId chat_id = .ok (some chat)) : chat_id = .int chat := by
  unfold telegramId at h
  split at h
  · cases h
  · split at h
    · cases h
      rfl
    · cases h
  · cases h

/-- Running alone, a chat stands for an account that is stored under its identifier. -/
theorem leads_userOfChat {α : Type}
    {V : Table User.id} {chat_id : Json} {f : Option User → Db α}
    (hJ : (Contract.solo : Contract L Tbl).Stable J)
    (hshows : ∀ s ws, J s ws → Shows Tbl.users V s ws) (hend : ∀ s ws, J s ws → K s ws)
    (hnone : (Contract.solo : Contract L Tbl).Leads J K (f none))
    (hsome : ∀ user ∈ V.rows, telegramId chat_id = .ok (User.telegram_id user) →
      (Contract.solo : Contract L Tbl).Leads J K (f (some user))) :
    (Contract.solo : Contract L Tbl).Leads J K (Prog.bind (userOfChat chat_id) f) := by
  unfold userOfChat UserRepository.getByTelegramId
  cases hid : telegramId chat_id with
  | error e => exact .throw _ hend
  | ok telegram_id =>
      refine leads_selectOne (t := Tbl.users) hJ hshows hend hnone fun user hmem hcarries => ?_
      exact hsome user hmem (of_decide_eq_true hcarries ▸ hid)

section

variable (hJ : C.Stable J)

include hJ

theorem steady_userOfChat (chat_id : Json) : C.Steady J (userOfChat chat_id) :=
  .bind (steady_liftExcept _) fun _ => steady_selectOne hJ _

theorem steady_traffic (chat_id : Json) : C.Steady J (traffic chat_id) := by
  refine .bind (steady_userOfChat hJ chat_id) fun found => ?_
  cases found with
  | none => exact .ret _
  | some user =>
      refine .bind (steady_liftExcept _) fun _ => .bind (steady_liftExcept _) fun _ => ?_
      exact .bind (steady_liftExcept _) fun _ => .bind (steady_liftExcept _) fun _ => .ret _

theorem steady_handleChatJoinRequest (request : Json) :
    C.Steady J (handleChatJoinRequest rt request) := by
  refine .ite (.ret _) (.bind (steady_liftExcept _) fun chat_id => ?_)
  refine .bind (steady_liftExcept _) fun from_id => .ite (.ret _) ?_
  refine .bind (steady_liftExcept _) fun telegram_id => ?_
  exact .bind (steady_userOfChat hJ _) fun user => .ret _

/-- A property that bears changes of accounts bears the commands that change one. -/
theorem steady_bind (huser : ∀ (user : User) s ws, C.Inv s → J s ws →
    J s (ws ++ [.put Tbl.users user])) (chat_id : Json) (raw_token : String) :
    C.Steady J (bind rt lib chat_id raw_token) := by
  refine .bind (steady_liftExcept _) fun user_token => .ite (.throw _) ?_
  refine .bind (steady_selectOne hJ _) fun found => ?_
  cases found with
  | none => exact .throw _
  | some user =>
      refine .ite (.throw _) ?_
      cases telegramId chat_id with
      | error e => exact .throw _
      | ok telegram_id => exact .bind (steady_updateRow hJ fun _ => huser _) fun _ => .ret _

theorem steady_unbind (huser : ∀ (user : User) s ws, C.Inv s → J s ws →
    J s (ws ++ [.put Tbl.users user])) (chat_id : Json) : C.Steady J (unbind chat_id) := by
  refine .bind (steady_userOfChat hJ chat_id) fun found => ?_
  cases found with
  | none => exact .ret _
  | some user => exact .bind (steady_updateRow hJ fun _ => huser _) fun _ => .ret _

/-- A property that bears new versions of tickets and new messages bears their replies. -/
theorem steady_replyTicket (hticket : ∀ (ticket : Ticket) s ws, C.Inv s → J s ws →
      J s (ws ++ [.put Tbl.ticket ticket]))
    (hput : ∀ (m : TicketMessage) s ws, C.Inv s → J s ws →
      J s (ws ++ [.put Tbl.ticket_message m])) (message_id : Int) (chat_id : Json)
    (ticket_id : Int) (text : String) :
    C.Steady J (replyTicket rt message_id chat_id ticket_id text) := by
  refine .bind (steady_userOfChat hJ chat_id) fun found => ?_
  cases found with
  | none => exact .ret _
  | some user =>
      refine .ite (.ret _) (.bind (.bind (.get hJ _ _) fun found => ?_) fun _ => .ret _)
      cases found with
      | none => exact .throw _
      | some ticket =>
          refine .ite (.throw _) (.bind (.bind ?_ fun _ => .bind (steady_whenever ?_) fun _ =>
            steady_updateRow hJ fun _ => hticket _) fun _ => ?_)
          · exact .bind (steady_time hJ) fun _ => steady_create hJ (hput _)
          · refine .bind (.update hJ fun cur _ => hticket _) fun found => ?_
            cases found
            · exact .throw _
            · exact .ret _
          · exact .bind (.bind (.select hJ _ _) fun _ => .ret _) fun _ => .ret _

variable (hcache : ∀ key, CacheOpen C J key)

include hcache

theorem steady_latestUrl (chat_id : Json) : C.Steady J (latestUrl rt chat_id) := by
  refine .bind (steady_getStr rt hJ (hcache _) _) fun app_name => ?_
  exact .bind (steady_getStr rt hJ (hcache _) _) fun app_url => .ret _

/-! ## §2. Messages. -/

/-- **The commands**: one of them binds, one unbinds, and a reply may answer a ticket. -/
theorem leads_dispatch {message_id : Int} {message : Message} {text command : String}
    {args : List String} (hend : ∀ s ws, J s ws → K s ws)
    (hbind : command = "/bind" → ticketReference lib message.reply_text = .ok none →
      ∀ raw_token, C.Leads J K (bind rt lib message.chat_id raw_token))
    (hunbind : command = "/unbind" → ticketReference lib message.reply_text = .ok none →
      C.Leads J K (unbind message.chat_id))
    (hreply : ∀ number ticket_id, ticketReference lib message.reply_text = .ok (some number) →
      rt.int_of_str number = some ticket_id →
      C.Leads J K (replyTicket rt message_id message.chat_id ticket_id text)) :
    C.Leads J K (dispatch rt lib message_id message text command args) := by
  unfold dispatch
  cases hreference : ticketReference lib message.reply_text with
  | error e => exact .throw _ hend
  | ok reference =>
      cases reference with
      | some number =>
          simp only [liftExcept, Prog.bind_eq, Prog.pure_eq, Prog.bind]
          cases hnumber : rt.int_of_str number with
          | none => exact .throw _ hend
          | some ticket_id => exact hreply number ticket_id hreference hnumber
      | none =>
          show C.Leads J K (runCommand rt lib message.chat_id command args)
          unfold runCommand
          refine .ite (fun hcommand => hbind hcommand hreference _) fun _ => ?_
          refine .ite (fun hcommand => hunbind hcommand hreference) fun _ => ?_
          refine .ite (fun _ => (steady_traffic hJ _).leads hend) fun _ => ?_
          refine .ite (fun _ => (steady_latestUrl hJ hcache _).leads hend) fun _ => ?_
          exact .ret _ hend

omit hJ hcache in
/-- What the commands have made is there when their exception has been answered. -/
theorem leads_handleMessage {message_id : Int} {message : Message}
    (hend : ∀ s ws, J s ws → K s ws)
    (hdispatch : ∀ command args, parseCommand rt lib message.text = .ok (command, args) →
      C.Leads J K (dispatch rt lib message_id message (rt.str message.text) command args)) :
    C.Leads J K (handleMessage rt lib message_id message) := by
  unfold handleMessage
  cases hparse : parseCommand rt lib message.text with
  | error e => exact .throw _ hend
  | ok parsed =>
      obtain ⟨command, args⟩ := parsed
      refine .tryCatch (hdispatch command args hparse) (fun e => ?_) fun _ _ hk => hk
      unfold answerException
      exact .ite (fun _ => .throw _ fun _ _ hk => hk) fun _ => .ret _ fun _ _ hk => hk

/-! ## §3. Updates. -/

variable (rt) in
theorem steady_keepUpdate (update_id : Json) (payload : JsonDict) :
    C.Steady J (whenever (update_id ≠ .null) (do
      let _done ← RuntimeCache.set (updateKey rt update_id) (.obj payload) (some 86400)
      return ())) :=
  steady_whenever (.bind (steady_set hJ (hcache _) _ _ _) fun _ => .ret _)

/-- **The webhook** makes of a session what its message makes of it. -/
theorem wp_handleWebhook {message_id : Int} {access_token : String} {payload : JsonDict}
    (hmessage : ∀ message, parseMessage (payloadField payload "message") = .ok (some message) →
      C.Leads J K (handleMessage rt lib message_id message))
    (hnone : parseMessage (payloadField payload "message") = .ok none →
      ∀ s ws, J s ws → K s ws)
    {s : State Tbl} {ss : Session Tbl} (hi : C.Inv s) (hj : J s ss.ws) :
    wp C (handleWebhook rt lib message_id access_token payload)
      (fun r s' ss' => ∀ calls, r = .ok calls → K s' ss'.ws) s ss := by
  have hraise : ∀ (e : PyExc) (s' : State Tbl) (ss' : Session Tbl), J s' ss'.ws →
      ∀ calls : List BotCall, (.error e : Except PyExc (List BotCall)) = .ok calls →
        K s' ss'.ws := by
    intro e s' ss' _ calls hcalls
    cases hcalls
  refine (steady_getStr rt hJ (hcache _) _).wp_bind hi hj (fun token s₁ ss₁ hi₁ hj₁ => ?_) hraise
  refine wp_ite (fun _ => hraise _ s₁ ss₁ hj₁) fun _ => ?_
  refine (steady_keepUpdate rt hJ hcache _ _).wp_bind hi₁ hj₁
    (fun _ s₂ ss₂ hi₂ hj₂ => ?_) hraise
  refine (steady_handleChatJoinRequest hJ _).wp_bind hi₂ hj₂
    (fun answered s₃ ss₃ hi₃ hj₃ => ?_) hraise
  cases hparse : parseMessage (payloadField payload "message") with
  | error e => exact hraise e s₃ ss₃ hj₃
  | ok parsed =>
      cases parsed with
      | none => exact fun calls _ => hnone hparse s₃ ss₃.ws hj₃
      | some message =>
          show wp C ((handleMessage rt lib message_id message).bind fun calls =>
            .ret (answered ++ calls)) _ s₃ ss₃
          refine (wp_bind _ _ _ _ _).mpr (wp_mono (hmessage message hparse s₃ ss₃ hi₃ hj₃) ?_)
          intro r s' ss' hk
          cases r with
          | error e =>
              intro calls hcalls
              cases hcalls
          | ok calls => exact fun _ _ => hk

end

/-- Libraries that read plain text. -/
def plainBot : BotLibraries where
  md5 := id
  isspace := fun c => c = ' '
  isdecimal := Char.isDigit
  query := fun _ => .ok ""
  token := id
  str_exc := fun _ => ""

end PyBoard.TelegramService
