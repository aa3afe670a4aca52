/-
  PyBoard.Services.Telegram — the webhook of the Telegram bot.

  An update is a decoded JSON object.  A command that raises is answered with the text of the
  exception, and what the request has stored is committed unless a flush has failed.  The calls
  to the Bot API are returned; what they answer changes nothing.  The libraries behind the bot
  are parameters.
-/
import PyBoard.Python.Digits
import PyBoard.Services.Ticket

namespace PyBoard

open Relational

/-- 根据 Telegram ID 查询用户。 -/
def UserRepository.getByTelegramId (telegram_id : Option Int) : Db (Option User) := do
  scalarOneOrNone (← Prog.select Tbl.users fun (u : User) => u.telegram_id = telegram_id)

/-- 解绑 Telegram。 -/
def UserService.unbindTelegram (user_id : Int) : Db Bool := do
  match ← UserRepository.getById user_id with
  | none => Prog.throw (NotFoundException "用户不存在")
  | some user =>
    let _user ← updateRow .users user { user with telegram_id := none }
    return true

namespace TelegramService

open SettingService.Cached

/-! ## §1. Libraries. -/

/-- What the bot calls outside the repository. -/
structure BotLibraries where
  /-- `hashlib.md5(text.encode()).hexdigest()`. -/
  md5 : String → String
  /-- White space of `str.split()`, and what `\d` matches. -/
  isspace : Char → Bool
  isdecimal : Char → Bool
  /-- `urllib.parse.urlparse(url).query`. -/
  query : String → Except PyExc String
  /-- `(urllib.parse.parse_qs(query).get("token") or [""])[0]`. -/
  token : String → String
  /-- `str(exc)`. -/
  str_exc : PyExc → String

variable (rt : Runtime) (lib : BotLibraries)

/-- A call to the Bot API. -/
inductive BotCall
  | sendMessage (chat_id : Json) (text : String)
  /-- `approveChatJoinRequest` or `declineChatJoinRequest`. -/
  | chatJoinRequest (method : String) (chat_id user_id : Json)
  deriving DecidableEq

/-- `text.split()`. -/
def BotLibraries.split (text : String) : List String :=
  ((text.toList.splitOnP lib.isspace).filter (· ≠ [])).map String.ofList

/-- `re.search(r"#(\d+)", text).group(1)`. -/
def BotLibraries.ticketNumber : List Char → Option String
  | [] => none
  | c :: rest =>
      let number := rest.takeWhile lib.isdecimal
      if c = '#' ∧ number ≠ [] then some (String.ofList number) else ticketNumber rest

/-- `value.get(key, default)`. -/
def getField (value : Json) (key : String) (default : Json) : Except PyExc Json :=
  match value with
  | .obj fields => .ok ((Json.lookup fields key).getD default)
  | _ => .error (.other "AttributeError")

/-! ## §2. Messages. -/

/-- What the commands read of a message. -/
structure Message where
  text : Json
  chat_id : Json
  reply_text : Json

/-- `_parse_message`. -/
def parseMessage (message : Json) : Except PyExc (Option Message) := do
  if !message.truthy then .ok none
  else
    let text ← getField message "text" .null
    if !text.truthy then .ok none
    else
      let chat_id ← getField (← getField message "chat" (.obj [])) "id" .null
      let reply_text ← getField (← getField message "reply_to_message" (.obj [])) "text" .null
      .ok (some ⟨text, chat_id, reply_text⟩)

/-- `command, *args = text.split()`, the command without the name of the bot. -/
def parseCommand (text : Json) : Except PyExc (String × List String) :=
  match text with
  | .str text =>
    match lib.split text with
    | [] => .error (.value "not enough values to unpack (expected at least 1, got 0)")
    | command :: args =>
      .ok (rt.lower (String.ofList (command.toList.takeWhile (· ≠ '@'))), args)
  | _ => .error (.other "AttributeError")

/-- `_extract_user_token`. -/
def extractUserToken (raw_token : String) : Except PyExc String := do
  let query ← lib.query raw_token
  if query ≠ "" then .ok (lib.token query) else .ok (rt.strip raw_token)

/-- The digits of the ticket that a message answers. -/
def ticketReference (reply_text : Json) : Except PyExc (Option String) :=
  if !reply_text.truthy then .ok none
  else
    match reply_text with
    | .str text => .ok (lib.ticketNumber text.toList)
    | _ => .error (.other "TypeError")

/-- The value of the INTEGER column `telegram_id`. -/
def telegramId : Json → Except PyExc (Option Int)
  | .null => .ok none
  | .int i => if -2 ^ 31 ≤ i ∧ i < 2 ^ 31 then .ok (some i) else .error (.other "DBAPIError")
  | _ => .error (.other "DBAPIError")

/-- `self.user_repo.get_by_telegram_id(chat_id)`. -/
def userOfChat (chat_id : Json) : Db (Option User) := do
  UserRepository.getByTelegramId (← liftExcept (telegramId chat_id))

/-! ## §3. Commands. -/

/-- `f"\x7bsize:.2f\x7d"` of a double that is not negative. -/
def twoDecimals (size : PyFloat) : String :=
  match size with
  | .finite q =>
      let n := (roundHalfEven (q * 100)).toNat
      toString (n / 100) ++ "." ++ String.ofList (padded 10 2 (n % 100))
  | _ => "inf"

/-- `_format_bytes`. -/
def formatBytes (value : Int) : Except PyExc String :=
  match PyFloat.ofRat (max value 0 : Int) with
  | .finite size =>
      .ok (formatUnits twoDecimals (.finite size) ["B", "KB", "MB", "GB", "TB", "PB"])
  | _ => .error (.other "OverflowError")

/-- `_bind`. -/
def bind (chat_id : Json) (raw_token : String) : Db (List BotCall) := do
  let user_token ← liftExcept (extractUserToken rt lib raw_token)
  if user_token = "" then
    Prog.throw (BadRequestException "参数有误，请携带 token 或订阅地址发送")
  else
    match ← UserRepository.getByToken user_token with
    | none => Prog.throw (BadRequestException "用户不存在")
    | some user =>
      if user.telegram_id.getD 0 ≠ 0 then
        Prog.throw (BadRequestException "该账号已经绑定了 Telegram 账号")
      else
        match telegramId chat_id with
        | .error _ => Prog.throw (.other "DataError")
        | .ok telegram_id =>
          let _user ← updateRow .users user { user with telegram_id := telegram_id }
          return [.sendMessage chat_id "绑定成功"]

/-- `_unbind`. -/
def unbind (chat_id : Json) : Db (List BotCall) := do
  match ← userOfChat chat_id with
  | none => return [.sendMessage chat_id "没有查询到您的用户信息，请先绑定账号"]
  | some user =>
    let _user ← updateRow .users user { user with telegram_id := none }
    return [.sendMessage chat_id "解绑成功"]

/-- `_traffic`. -/
def traffic (chat_id : Json) : Db (List BotCall) := do
  match ← userOfChat chat_id with
  | none => return [.sendMessage chat_id "没有查询到您的用户信息，请先绑定账号"]
  | some user =>
    let remaining := max (user.transfer_enable - user.u - user.d) 0
    let transfer_enable ← liftExcept (formatBytes user.transfer_enable)
    let u ← liftExcept (formatBytes user.u)
    let d ← liftExcept (formatBytes user.d)
    let remaining ← liftExcept (formatBytes remaining)
    return [.sendMessage chat_id ("流量查询\n计划流量：" ++ transfer_enable ++ "\n已用上行：" ++ u ++
      "\n已用下行：" ++ d ++ "\n剩余流量：" ++ remaining)]

/-- `_reply_ticket`. -/
def replyTicket (message_id : Int) (chat_id : Json) (ticket_id : Int) (text : String) :
    Db (List BotCall) := do
  match ← userOfChat chat_id with
  | none => return []
  | some user =>
    if ¬(user.is_admin ∨ user.is_staff) then return []
    else
      let _detail ← TicketService.replyAdminTicket rt message_id user.id ticket_id ⟨text⟩
      return [.sendMessage chat_id ("#" ++ toString ticket_id ++ " 的工单已回复成功")]

/-- The command `/getlatesturl`. -/
def latestUrl (chat_id : Json) : Db (List BotCall) := do
  let app_name ← getStr rt "app_name" "PyBoard"
  let app_url ← getStr rt "app_url" ""
  return [.sendMessage chat_id (app_name ++ "的最新网址是：" ++ app_url)]

/-- The commands of a text. -/
def runCommand (chat_id : Json) (command : String) (args : List String) : Db (List BotCall) :=
  if command = "/bind" then bind rt lib chat_id (args.head?.getD "")
  else if command = "/unbind" then unbind chat_id
  else if command = "/traffic" then traffic chat_id
  else if command = "/getlatesturl" then latestUrl rt chat_id
  else return []

/-! ## §4. Updates. -/

/-- Has a flush raised the exception?  The session refuses to commit then. -/
def isFlushError : PyExc → Bool
  | .other name => name ∈ ["DataError", "IntegrityError", "StaleDataError"]
  | _ => false

/-- The `except` of `_handle_message`, and the commit of a session whose flush has failed. -/
def answerException (chat_id : Json) (e : PyExc) : Db (List BotCall) :=
  if isFlushError e then Prog.throw (.other "PendingRollbackError")
  else return [.sendMessage chat_id (lib.str_exc e)]

/-- The `try` of `_handle_message`. -/
def dispatch (message_id : Int) (message : Message) (text command : String)
    (args : List String) : Db (List BotCall) := do
  match ← liftExcept (ticketReference lib message.reply_text) with
  | some number =>
    match rt.int_of_str number with
    | none => Prog.throw (.value "invalid literal for int()")
    | some ticket_id => replyTicket rt message_id message.chat_id ticket_id text
  | none => runCommand rt lib message.chat_id command args

/-- `_handle_message`. -/
def handleMessage (message_id : Int) (message : Message) : Db (List BotCall) := do
  let (command, args) ← liftExcept (parseCommand rt lib message.text)
  Prog.tryCatch (dispatch rt lib message_id message (rt.str message.text) command args)
    (answerException lib message.chat_id)

/-- `_handle_chat_join_request`. -/
def handleChatJoinRequest (request : Json) : Db (List BotCall) := do
  if !request.truthy then return []
  else
    let chat_id ← liftExcept (getField request "chat" (.obj []) >>= fun c => getField c "id" .null)
    let from_id ← liftExcept (getField request "from" (.obj []) >>= fun f => getField f "id" .null)
    if chat_id = .null ∨ from_id = .null then return []
    else
      let telegram_id ← liftExcept (CouponService.intOfItem rt from_id)
      let user ← userOfChat (.int telegram_id)
      let method :=
        if user.any fun u => !u.banned then "approveChatJoinRequest" else "declineChatJoinRequest"
      return [.chatJoinRequest method chat_id from_id]

/-- `f"telegram:update:\x7bupdate_id\x7d"`. -/
def updateKey (update_id : Json) : String := "telegram:update:" ++ rt.str update_id

/-- `payload.get(key)`. -/
def payloadField (payload : JsonDict) (key : String) : Json :=
  (Json.lookup payload key).getD .null

/-- `handle_webhook`, with the identifier of the message that a reply may store. -/
def handleWebhook (message_id : Int) (access_token : String) (payload : JsonDict) :
    Db (List BotCall) := do
  let token ← getStr rt "telegram_bot_token" ""
  if token = "" ∨ access_token ≠ lib.md5 token then Prog.throw (UnauthorizedException)
  else
    let update_id := payloadField payload "update_id"
    whenever (update_id ≠ .null) (do
      let _done ← RuntimeCache.set (updateKey rt update_id) (.obj payload) (some 86400)
      return ())
    let answered ← handleChatJoinRequest rt (payloadField payload "chat_join_request")
    match ← liftExcept (parseMessage (payloadField payload "message")) with
    | none => return answered
    | some message => return answered ++ (← handleMessage rt lib message_id message)

end TelegramService

end PyBoard
