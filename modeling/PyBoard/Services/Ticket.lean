/-
  PyBoard.Services.Ticket — tickets and their messages.

  A user opens a ticket if none of his tickets is open.  A reply of the staff opens the ticket
  again that it answers.  The identifiers of new rows are parameters; the column `updated_at`,
  the lists of tickets and the lengths of the VARCHAR columns are left out.
-/
import PyBoard.Services.Codes
import PyBoard.Services.SettingCache

namespace PyBoard

open Relational

/-! ## §1. Queries. -/

namespace TicketRepository

def getById (id : Int) : Db (Option Ticket) := Prog.get Tbl.ticket id

def countOpenByUser (user_id : Int) : Db Int := do
  let rows ← Prog.select Tbl.ticket fun (t : Ticket) => t.user_id = user_id && t.status = 0
  return rows.length

end TicketRepository

namespace TicketMessageRepository

def listByTicket (ticket_id : Int) : Db (List TicketMessage) := do
  let rows ← Prog.select Tbl.ticket_message fun (m : TicketMessage) => m.ticket_id = ticket_id
  return rows.mergeSort fun a b => decide (a.id ≤ b.id)

def getLastByTicket (ticket_id : Int) : Db (Option TicketMessage) := do
  let rows ← Prog.select Tbl.ticket_message fun (m : TicketMessage) => m.ticket_id = ticket_id
  return (rows.mergeSort fun a b => decide (b.id ≤ a.id)).head?

end TicketMessageRepository

/-- 检查用户是否有已完成订单。 -/
def OrderRepository.hasPaidOrder (user_id : Int) : Db Bool := do
  let rows ← Prog.select Tbl.orders fun (o : Order) =>
    o.user_id = user_id && (o.status = 3 || o.status = 4)
  return !rows.isEmpty

namespace TicketService

open SettingService.Cached

variable (rt : Runtime)

/-! ## §2. What requests carry and what they get. -/

/-- 创建工单。 -/
structure TicketCreate where
  subject : String
  level : Int := 0
  message : String

/-- 回复工单。 -/
structure TicketReply where
  message : String

/-- 佣金提现工单。 -/
structure TicketWithdraw where
  withdraw_method : String
  withdraw_account : String

/-- A message as one of the two sides sees it. -/
structure TicketMessagePublic where
  id : Int
  user_id : Int
  ticket_id : Int
  message : String
  is_me : Bool
  created_at : Int
  deriving DecidableEq

structure TicketDetail where
  ticket : Ticket
  messages : List TicketMessagePublic
  deriving DecidableEq

/-- `_ticket_detail`. -/
def ticketDetail (ticket : Ticket) (viewer_user_id : Option Int) (staff_view : Bool) :
    Db TicketDetail := do
  let messages ← TicketMessageRepository.listByTicket ticket.id
  return {
    ticket := ticket
    messages := messages.map fun item => {
      id := item.id
      user_id := item.user_id
      ticket_id := item.ticket_id
      message := item.message
      is_me :=
        if staff_view then item.user_id ≠ ticket.user_id else some item.user_id = viewer_user_id
      created_at := item.created_at } }

/-! ## §3. Users. -/

/-- `self.message_repo.create(TicketMessage(...))`. -/
def createMessage (message_id user_id ticket_id : Int) (message : String) : Db Unit := do
  let created_at ← time
  create .ticket_message
    ({ id := message_id
       user_id := user_id
       ticket_id := ticket_id
       message := message
       created_at := created_at } : TicketMessage)

/-- The ticket of a user who may open one, and its first message. -/
def openTicket (id message_id user_id : Int) (data : TicketCreate) : Db TicketDetail := do
  let created_at ← time
  let ticket : Ticket :=
    { id := id
      user_id := user_id
      subject := rt.strip data.subject
      level := data.level
      status := 0
      reply_status := 0
      created_at := created_at }
  create .ticket ticket
  createMessage message_id user_id ticket.id (rt.strip data.message)
  ticketDetail ticket (some user_id) false

/-- The checks of the setting `ticket_status`. -/
def checkTicketStatus (user_id : Int) : Db Unit := do
  let ticket_status ← getInt rt "ticket_status" 0
  whenever (ticket_status = 1) (do
    if ← OrderRepository.hasPaidOrder user_id then return ()
    else Prog.throw (BadRequestException "请先购买套餐"))
  if ticket_status = 2 then Prog.throw (BadRequestException "当前不允许发起工单") else return ()

def createTicket (id message_id user_id : Int) (data : TicketCreate) : Db TicketDetail := do
  if rt.strip data.subject = "" then Prog.throw (BadRequestException "工单主题不能为空")
  else if rt.strip data.message = "" then Prog.throw (BadRequestException "工单内容不能为空")
  else if (← TicketRepository.countOpenByUser user_id) > 0 then
    Prog.throw (BadRequestException "您还有未关闭的工单")
  else
    checkTicketStatus rt user_id
    openTicket rt id message_id user_id data

/-- `_reply`.  The flush of the message stores what has been assigned to the ticket since it was
    read as `old`. -/
def reply (message_id : Int) (old ticket : Ticket) (user_id : Int) (message : String) :
    Db Ticket := do
  createMessage message_id user_id ticket.id message
  whenever (old ≠ ticket) (save .ticket old ticket)
  updateRow .ticket ticket
    { ticket with reply_status := if user_id = ticket.user_id then 0 else 1 }

def replyUserTicket (message_id user_id ticket_id : Int) (data : TicketReply) :
    Db TicketDetail := do
  match ← TicketRepository.getById ticket_id with
  | none => Prog.throw (NotFoundException "工单不存在")
  | some ticket =>
    if ticket.user_id ≠ user_id then Prog.throw (NotFoundException "工单不存在")
    else if ticket.status ≠ 0 then Prog.throw (BadRequestException "工单已关闭，不能回复")
    else if rt.strip data.message = "" then Prog.throw (BadRequestException "回复内容不能为空")
    else
      let last_message ← TicketMessageRepository.getLastByTicket ticket_id
      if last_message.any fun m => m.user_id = user_id then
        Prog.throw (BadRequestException "请等待客服回复")
      else
        let ticket ← reply message_id ticket ticket user_id (rt.strip data.message)
        ticketDetail ticket (some user_id) false

def closeUserTicket (user_id ticket_id : Int) : Db Bool := do
  match ← TicketRepository.getById ticket_id with
  | none => Prog.throw (NotFoundException "工单不存在")
  | some ticket =>
    if ticket.user_id ≠ user_id then Prog.throw (NotFoundException "工单不存在")
    else
      let _ticket ← updateRow .ticket ticket { ticket with status := 1 }
      return true

/-- `text in value`. -/
def textIn (text : String) : Json → Except PyExc Bool
  | .arr items => .ok (.str text ∈ items)
  | .obj fields => .ok (fields.any fun f => f.1 = text)
  | .str whole => .ok (text.toList <:+: whole.toList)
  | _ => .error (.other "TypeError")

def createWithdrawTicket (id message_id user_id : Int) (data : TicketWithdraw) :
    Db TicketDetail := do
  if (← getInt rt "withdraw_close_enable" 0) ≠ 0 then
    Prog.throw (BadRequestException "当前不支持佣金提现")
  else
    let methods ← getJson rt "commission_withdraw_method"
      (.arr [.str "alipay", .str "usdt", .str "bank"])
    if ← liftExcept (textIn data.withdraw_method methods) then
      match ← UserRepository.getById user_id with
      | none => Prog.throw (NotFoundException "用户不存在")
      | some user =>
        let limit_yuan ← getInt rt "commission_withdraw_limit" 100
        if user.commission_balance < limit_yuan * 100 then
          Prog.throw (BadRequestException ("当前最低提现佣金为 " ++ toString limit_yuan))
        else
          createTicket rt id message_id user_id
            { subject := "佣金提现申请"
              level := 2
              message := "提现方式：" ++ data.withdraw_method ++ "\n提现账号：" ++
                data.withdraw_account }
    else Prog.throw (BadRequestException "不支持的提现方式")

/-! ## §4. Staff. -/

def replyAdminTicket (message_id admin_user_id ticket_id : Int) (data : TicketReply) :
    Db TicketDetail := do
  match ← TicketRepository.getById ticket_id with
  | none => Prog.throw (NotFoundException "工单不存在")
  | some ticket =>
    if rt.strip data.message = "" then Prog.throw (BadRequestException "回复内容不能为空")
    else
      let ticket ←
        reply message_id ticket { ticket with status := 0 } admin_user_id (rt.strip data.message)
      ticketDetail ticket (some admin_user_id) true

def closeAdminTicket (ticket_id : Int) : Db Bool := do
  match ← TicketRepository.getById ticket_id with
  | none => Prog.throw (NotFoundException "工单不存在")
  | some ticket =>
    let _ticket ← updateRow .ticket ticket { ticket with status := 1 }
    return true

end TicketService

end PyBoard
