/-
  PyBoard.Specs.Talks — what the tickets and the bot write.

  Besides rows of the cache they write tickets and their messages, and the chat of an account.
  `Talks P K` says that such statements satisfy `P`, where `K` are the keys of the cache; one
  lemma for each service says that its statements do.
-/
import PyBoard.Services.Telegram
import PyBoard.Specs.Account

namespace PyBoard

open Relational SettingService.Cached

variable {rt : Runtime} {lib : TelegramService.BotLibraries}

/-! ## §1. Statements. -/

variable (rt) in
/-- Statements that read, statements of the cache, writes of tickets and of messages, and the
    update of an account's chat satisfy `P`. -/
structure Talks (P : Stmt Tbl → Prop) (K : String → Prop) : Prop extends Serves P K where
  create : ∀ ticket : Ticket, P (.insert Tbl.ticket ticket)
  change : ∀ old new : Ticket, P (.update Tbl.ticket old new)
  message : ∀ m : TicketMessage, P (.insert Tbl.ticket_message m)
  chat : ∀ (user : User) telegram_id,
    P (.update Tbl.users user { user with telegram_id := telegram_id })
  updates : ∀ update_id, K (TelegramService.updateKey rt update_id)

variable {P : Stmt Tbl → Prop} {K : String → Prop} (ht : Talks rt P K)

include ht

/-! ## §2. Tickets. -/

namespace TicketService

theorem obeys_getById (ticket_id : Int) : (TicketRepository.getById ticket_id).Obeys P :=
  .stmt (ht.reads trivial)

theorem obeys_createMessage (message_id user_id ticket_id : Int) (message : String) :
    (createMessage message_id user_id ticket_id message).Obeys P :=
  .bind (obeys_time ht.toServes) fun _ =>
    .bind (.stmt (ht.message _)) fun _ => .ite (.ret _) (.throw _)

theorem obeys_ticketDetail (ticket : Ticket) (viewer_user_id : Option Int) (staff_view : Bool) :
    (ticketDetail ticket viewer_user_id staff_view).Obeys P :=
  .bind (.bind (.stmt (ht.reads trivial)) fun _ => .ret _) fun _ => .ret _

theorem obeys_openTicket (id message_id user_id : Int) (data : TicketCreate) :
    (openTicket rt id message_id user_id data).Obeys P :=
  .bind (obeys_time ht.toServes) fun _ =>
    .bind (.bind (.stmt (ht.create _)) fun _ => .ite (.ret _) (.throw _)) fun _ =>
    .bind (obeys_createMessage ht _ _ _ _) fun _ => obeys_ticketDetail ht _ _ _

theorem obeys_checkTicketStatus (user_id : Int) : (checkTicketStatus rt user_id).Obeys P := by
  refine .bind (obeys_getInt ht.toServes (ht.settings (by decide)) _) fun ticket_status => ?_
  refine .bind (obeys_whenever (.bind ?_ fun _ => .ite (.ret _) (.throw _))) fun _ => ?_
  · exact .bind (.stmt (ht.reads trivial)) fun _ => .ret _
  · exact .ite (.throw _) (.ret _)

theorem obeys_createTicket (id message_id user_id : Int) (data : TicketCreate) :
    (createTicket rt id message_id user_id data).Obeys P := by
  refine .ite (.throw _) (.ite (.throw _) (.bind ?_ fun _ => .ite (.throw _) ?_))
  · exact .bind (.stmt (ht.reads trivial)) fun _ => .ret _
  · exact .bind (obeys_checkTicketStatus ht _) fun _ => obeys_openTicket ht _ _ _ _

theorem obeys_createWithdrawTicket (id message_id user_id : Int) (data : TicketWithdraw) :
    (createWithdrawTicket rt id message_id user_id data).Obeys P := by
  refine .bind (obeys_getInt ht.toServes (ht.settings (by decide)) _) fun _ => .ite (.throw _) ?_
  refine .bind (obeys_getJson ht.toServes (ht.settings (by decide)) _) fun methods => ?_
  refine .bind (obeys_liftExcept _) fun _ => .ite ?_ (.throw _)
  refine .bind (.stmt (ht.reads trivial)) fun found => ?_
  cases found with
  | none => exact .throw _
  | some user =>
    refine .bind (obeys_getInt ht.toServes (ht.settings (by decide)) _) fun _ => ?_
    exact .ite (.throw _) (obeys_createTicket ht _ _ _ _)

theorem obeys_reply (message_id : Int) (old ticket : Ticket) (user_id : Int) (message : String) :
    (reply message_id old ticket user_id message).Obeys P :=
  .bind (obeys_createMessage ht _ _ _ _) fun _ =>
    .bind (obeys_whenever (.bind (.stmt (ht.change _ _)) fun _ => .ite (.ret _) (.throw _)))
      fun _ => obeys_updateRow ht.toServes (ht.change _ _)

theorem obeys_replyUserTicket (message_id user_id ticket_id : Int) (data : TicketReply) :
    (replyUserTicket rt message_id user_id ticket_id data).Obeys P := by
  refine .bind (obeys_getById ht _) fun found => ?_
  cases found with
  | none => exact .throw _
  | some ticket =>
    refine .ite (.throw _) (.ite (.throw _) (.ite (.throw _) (.bind ?_ fun _ => ?_)))
    · exact .bind (.stmt (ht.reads trivial)) fun _ => .ret _
    · refine .ite (.throw _) (.bind (obeys_reply ht _ _ _ _ _) fun _ => ?_)
      exact obeys_ticketDetail ht _ _ _

theorem obeys_closeUserTicket (user_id ticket_id : Int) :
    (closeUserTicket user_id ticket_id).Obeys P := by
  refine .bind (obeys_getById ht _) fun found => ?_
  cases found with
  | none => exact .throw _
  | some ticket =>
    exact .ite (.throw _) (.bind (obeys_updateRow ht.toServes (ht.change _ _)) fun _ => .ret _)

theorem obeys_replyAdminTicket (message_id admin_user_id ticket_id : Int) (data : TicketReply) :
    (replyAdminTicket rt message_id admin_user_id ticket_id data).Obeys P := by
  refine .bind (obeys_getById ht _) fun found => ?_
  cases found with
  | none => exact .throw _
  | some ticket =>
    refine .ite (.throw _) (.bind (obeys_reply ht _ _ _ _ _) fun _ => ?_)
    exact obeys_ticketDetail ht _ _ _

theorem obeys_closeAdminTicket (ticket_id : Int) : (closeAdminTicket ticket_id).Obeys P := by
  refine .bind (obeys_getById ht _) fun found => ?_
  cases found with
  | none => exact .throw _
  | some ticket => exact .bind (obeys_updateRow ht.toServes (ht.change _ _)) fun _ => .ret _

end TicketService

/-! ## §3. The bot. -/

namespace TelegramService

theorem obeys_userOfChat (chat_id : Json) : (userOfChat chat_id).Obeys P :=
  .bind (obeys_liftExcept _) fun _ => obeys_selectOne ht.toServes _ _

theorem obeys_bind (chat_id : Json) (raw_token : String) :
    (bind rt lib chat_id raw_token).Obeys P := by
  refine .bind (obeys_liftExcept _) fun user_token => .ite (.throw _) ?_
  refine .bind (obeys_selectOne ht.toServes _ _) fun found => ?_
  cases found with
  | none => exact .throw _
  | some user =>
    refine .ite (.throw _) ?_
    cases telegramId chat_id with
    | error e => exact .throw _
    | ok telegram_id =>
      exact .bind (obeys_updateRow ht.toServes (ht.chat user telegram_id)) fun _ => .ret _

theorem obeys_unbind (chat_id : Json) : (unbind chat_id).Obeys P := by
  refine .bind (obeys_userOfChat ht chat_id) fun found => ?_
  cases found with
  | none => exact .ret _
  | some user => exact .bind (obeys_updateRow ht.toServes (ht.chat user none)) fun _ => .ret _

theorem obeys_traffic (chat_id : Json) : (traffic chat_id).Obeys P := by
  refine .bind (obeys_userOfChat ht chat_id) fun found => ?_
  cases found with
  | none => exact .ret _
  | some user =>
    refine .bind (obeys_liftExcept _) fun _ => .bind (obeys_liftExcept _) fun _ => ?_
    exact .bind (obeys_liftExcept _) fun _ => .bind (obeys_liftExcept _) fun _ => .ret _

theorem obeys_replyTicket (message_id : Int) (chat_id : Json) (ticket_id : Int) (text : String) :
    (replyTicket rt message_id chat_id ticket_id text).Obeys P := by
  refine .bind (obeys_userOfChat ht chat_id) fun found => ?_
  cases found with
  | none => exact .ret _
  | some user =>
    exact .ite (.ret _)
      (.bind (TicketService.obeys_replyAdminTicket ht _ _ _ _) fun _ => .ret _)

theorem obeys_runCommand (chat_id : Json) (command : String) (args : List String) :
    (runCommand rt lib chat_id command args).Obeys P := by
  refine .ite (obeys_bind ht _ _) (.ite (obeys_unbind ht _) (.ite (obeys_traffic ht _) ?_))
  refine .ite (.bind ?_ fun _ => .bind ?_ fun _ => .ret _) (.ret _)
  · exact obeys_getStr ht.toServes (ht.settings (by decide)) _
  · exact obeys_getStr ht.toServes (ht.settings (by decide)) _

theorem obeys_handleMessage (message_id : Int) (message : Message) :
    (handleMessage rt lib message_id message).Obeys P := by
  refine .bind (obeys_liftExcept _) fun parsed => .tryCatch ?_ fun e => .ite (.throw _) (.ret _)
  refine .bind (obeys_liftExcept _) fun reference => ?_
  cases reference with
  | none => exact obeys_runCommand ht _ _ _
  | some number =>
    dsimp only
    cases rt.int_of_str number with
    | none => exact .throw _
    | some ticket_id => exact obeys_replyTicket ht _ _ _ _

theorem obeys_handleChatJoinRequest (request : Json) :
    (handleChatJoinRequest rt request).Obeys P := by
  refine .ite (.ret _) (.bind (obeys_liftExcept _) fun chat_id => ?_)
  refine .bind (obeys_liftExcept _) fun from_id => .ite (.ret _) ?_
  exact .bind (obeys_liftExcept _) fun _ => .bind (obeys_userOfChat ht _) fun _ => .ret _

theorem obeys_handleWebhook (message_id : Int) (access_token : String) (payload : JsonDict) :
    (handleWebhook rt lib message_id access_token payload).Obeys P := by
  refine .bind (obeys_getStr ht.toServes (ht.settings (by decide)) _) fun token => ?_
  refine .ite (.throw _) (.bind (obeys_whenever ?_) fun _ => ?_)
  · exact .bind (RuntimeCache.obeys_set ht.toServes (ht.updates _) _ _ _) fun _ => .ret _
  refine .bind (obeys_handleChatJoinRequest ht _) fun answered => ?_
  refine .bind (obeys_liftExcept _) fun parsed => ?_
  cases parsed with
  | none => exact .ret _
  | some message => exact .bind (obeys_handleMessage ht _ _) fun _ => .ret _

end TelegramService

end PyBoard
