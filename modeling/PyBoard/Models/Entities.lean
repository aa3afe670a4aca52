/-
  PyBoard.Models.Entities — the rows of the database.

  One structure per table, with the source's column names and defaults.
  Columns that no modelled function reads or writes (display texts, sort
  weights, `updated_at`) are left out.  `merge` is the UPDATE an ORM session
  emits for a row it read as `old` and now holds as `new`: only the columns
  that differ are written over the current row.

  `expired_at` is optional as the services treat it (`None` is permanent).
-/
import PyBoard.Python.Runtime

namespace PyBoard

/-- One column of an UPDATE. -/
def column {α : Type} [DecidableEq α] (old new cur : α) : α :=
  if old = new then cur else new

@[simp]
theorem column_self {α : Type} [DecidableEq α] (old new : α) : column old new old = new := by
  unfold column
  split
  · next h => exact h
  · rfl

@[simp]
theorem column_same {α : Type} [DecidableEq α] (old cur : α) : column old old cur = cur :=
  if_pos rfl

/-- 用户表 `users`。 -/
structure User where
  id : Int
  email : String
  password : String
  token : String
  invite_user_id : Option Int := none
  telegram_id : Option Int := none
  balance : Int := 0
  discount : Option Int := none
  commission_type : Int := 0
  commission_rate : Option Int := none
  commission_balance : Int := 0
  t : Int := 0
  u : Int := 0
  d : Int := 0
  transfer_enable : Int := 0
  group_id : Option Int := none
  plan_id : Option Int := none
  speed_limit : Option Int := none
  device_limit : Option Int := none
  banned : Bool := false
  is_admin : Bool := false
  is_staff : Bool := false
  auto_renewal : Int := 0
  remind_expire : Int := 1
  remind_traffic : Int := 1
  last_login_at : Option Int := none
  last_login_ip : Option Int := none
  uuid : String
  expired_at : Option Int := some 0
  remarks : Option String := none
  deriving DecidableEq

/-- `UPDATE users SET` the columns in which `new` differs from `old`. -/
def User.merge (old new cur : User) : User where
  id := cur.id
  email := column old.email new.email cur.email
  password := column old.password new.password cur.password
  token := column old.token new.token cur.token
  invite_user_id := column old.invite_user_id new.invite_user_id cur.invite_user_id
  telegram_id := column old.telegram_id new.telegram_id cur.telegram_id
  balance := column old.balance new.balance cur.balance
  discount := column old.discount new.discount cur.discount
  commission_type := column old.commission_type new.commission_type cur.commission_type
  commission_rate := column old.commission_rate new.commission_rate cur.commission_rate
  commission_balance := column old.commission_balance new.commission_balance cur.commission_balance
  t := column old.t new.t cur.t
  u := column old.u new.u cur.u
  d := column old.d new.d cur.d
  transfer_enable := column old.transfer_enable new.transfer_enable cur.transfer_enable
  group_id := column old.group_id new.group_id cur.group_id
  plan_id := column old.plan_id new.plan_id cur.plan_id
  speed_limit := column old.speed_limit new.speed_limit cur.speed_limit
  device_limit := column old.device_limit new.device_limit cur.device_limit
  banned := column old.banned new.banned cur.banned
  is_admin := column old.is_admin new.is_admin cur.is_admin
  is_staff := column old.is_staff new.is_staff cur.is_staff
  auto_renewal := column old.auto_renewal new.auto_renewal cur.auto_renewal
  remind_expire := column old.remind_expire new.remind_expire cur.remind_expire
  remind_traffic := column old.remind_traffic new.remind_traffic cur.remind_traffic
  last_login_at := column old.last_login_at new.last_login_at cur.last_login_at
  last_login_ip := column old.last_login_ip new.last_login_ip cur.last_login_ip
  uuid := column old.uuid new.uuid cur.uuid
  expired_at := column old.expired_at new.expired_at cur.expired_at
  remarks := column old.remarks new.remarks cur.remarks

/-- 订单表 `orders`。 -/
structure Order where
  id : Int
  invite_user_id : Option Int := none
  user_id : Int
  plan_id : Int
  coupon_id : Option Int := none
  payment_id : Option Int := none
  type : Int
  period : String
  trade_no : String
  callback_no : Option String := none
  total_amount : Int
  handling_amount : Option Int := none
  discount_amount : Option Int := none
  surplus_amount : Option Int := none
  refund_amount : Option Int := none
  balance_amount : Option Int := none
  status : Int := 0
  commission_status : Int := 0
  commission_balance : Int := 0
  actual_commission_balance : Option Int := none
  paid_at : Option Int := none
  created_at : Int
  deriving DecidableEq

/-- `UPDATE orders SET` the columns in which `new` differs from `old`. -/
def Order.merge (old new cur : Order) : Order where
  id := cur.id
  invite_user_id := column old.invite_user_id new.invite_user_id cur.invite_user_id
  user_id := column old.user_id new.user_id cur.user_id
  plan_id := column old.plan_id new.plan_id cur.plan_id
  coupon_id := column old.coupon_id new.coupon_id cur.coupon_id
  payment_id := column old.payment_id new.payment_id cur.payment_id
  type := column old.type new.type cur.type
  period := column old.period new.period cur.period
  trade_no := column old.trade_no new.trade_no cur.trade_no
  callback_no := column old.callback_no new.callback_no cur.callback_no
  total_amount := column old.total_amount new.total_amount cur.total_amount
  handling_amount := column old.handling_amount new.handling_amount cur.handling_amount
  discount_amount := column old.discount_amount new.discount_amount cur.discount_amount
  surplus_amount := column old.surplus_amount new.surplus_amount cur.surplus_amount
  refund_amount := column old.refund_amount new.refund_amount cur.refund_amount
  balance_amount := column old.balance_amount new.balance_amount cur.balance_amount
  status := column old.status new.status cur.status
  commission_status := column old.commission_status new.commission_status cur.commission_status
  commission_balance := column old.commission_balance new.commission_balance cur.commission_balance
  actual_commission_balance :=
    column old.actual_commission_balance new.actual_commission_balance cur.actual_commission_balance
  paid_at := column old.paid_at new.paid_at cur.paid_at
  created_at := column old.created_at new.created_at cur.created_at

/-- 订阅套餐表 `plan`。 -/
structure Plan where
  id : Int
  name : String := ""
  group_id : Int
  transfer_enable : Int
  device_limit : Option Int := none
  speed_limit : Option Int := none
  «show» : Bool := false
  renew : Bool := true
  month_price : Option Int := none
  quarter_price : Option Int := none
  half_year_price : Option Int := none
  year_price : Option Int := none
  two_year_price : Option Int := none
  three_year_price : Option Int := none
  onetime_price : Option Int := none
  reset_price : Option Int := none
  capacity_limit : Option Int := none
  deriving DecidableEq

/-- `UPDATE plan SET` the columns in which `new` differs from `old`. -/
def Plan.merge (old new cur : Plan) : Plan where
  id := cur.id
  name := column old.name new.name cur.name
  group_id := column old.group_id new.group_id cur.group_id
  transfer_enable := column old.transfer_enable new.transfer_enable cur.transfer_enable
  device_limit := column old.device_limit new.device_limit cur.device_limit
  speed_limit := column old.speed_limit new.speed_limit cur.speed_limit
  «show» := column old.show new.show cur.show
  renew := column old.renew new.renew cur.renew
  month_price := column old.month_price new.month_price cur.month_price
  quarter_price := column old.quarter_price new.quarter_price cur.quarter_price
  half_year_price := column old.half_year_price new.half_year_price cur.half_year_price
  year_price := column old.year_price new.year_price cur.year_price
  two_year_price := column old.two_year_price new.two_year_price cur.two_year_price
  three_year_price := column old.three_year_price new.three_year_price cur.three_year_price
  onetime_price := column old.onetime_price new.onetime_price cur.onetime_price
  reset_price := column old.reset_price new.reset_price cur.reset_price
  capacity_limit := column old.capacity_limit new.capacity_limit cur.capacity_limit

/-- 优惠券表 `coupon`。 -/
structure Coupon where
  id : Int
  code : String
  type : Int
  value : Int
  «show» : Bool := false
  limit_use : Option Int := none
  limit_use_with_user : Option Int := none
  limit_plan_ids : Option String := none
  limit_period : Option String := none
  started_at : Int
  ended_at : Int
  deriving DecidableEq

/-- `UPDATE coupon SET` the columns in which `new` differs from `old`. -/
def Coupon.merge (old new cur : Coupon) : Coupon where
  id := cur.id
  code := column old.code new.code cur.code
  type := column old.type new.type cur.type
  value := column old.value new.value cur.value
  «show» := column old.show new.show cur.show
  limit_use := column old.limit_use new.limit_use cur.limit_use
  limit_use_with_user :=
    column old.limit_use_with_user new.limit_use_with_user cur.limit_use_with_user
  limit_plan_ids := column old.limit_plan_ids new.limit_plan_ids cur.limit_plan_ids
  limit_period := column old.limit_period new.limit_period cur.limit_period
  started_at := column old.started_at new.started_at cur.started_at
  ended_at := column old.ended_at new.ended_at cur.ended_at

/-- 礼品卡表 `giftcard`。 -/
structure Giftcard where
  id : Int
  code : String
  type : Int
  value : Option Int := none
  plan_id : Option Int := none
  limit_use : Option Int := none
  used_user_ids : Option String := none
  started_at : Int
  ended_at : Int
  deriving DecidableEq

/-- `UPDATE giftcard SET` the columns in which `new` differs from `old`. -/
def Giftcard.merge (old new cur : Giftcard) : Giftcard where
  id := cur.id
  code := column old.code new.code cur.code
  type := column old.type new.type cur.type
  value := column old.value new.value cur.value
  plan_id := column old.plan_id new.plan_id cur.plan_id
  limit_use := column old.limit_use new.limit_use cur.limit_use
  used_user_ids := column old.used_user_ids new.used_user_ids cur.used_user_ids
  started_at := column old.started_at new.started_at cur.started_at
  ended_at := column old.ended_at new.ended_at cur.ended_at

/-- 礼品卡兑换记录。 -/
structure GiftcardRedemption where
  id : Int
  giftcard_id : Int
  user_id : Int
  code : String
  type : Int
  value : Option Int := none
  plan_id : Option Int := none
  deriving DecidableEq

/-- `UPDATE giftcard_redemption SET` the columns in which `new` differs from `old`. -/
def GiftcardRedemption.merge (old new cur : GiftcardRedemption) : GiftcardRedemption where
  id := cur.id
  giftcard_id := column old.giftcard_id new.giftcard_id cur.giftcard_id
  user_id := column old.user_id new.user_id cur.user_id
  code := column old.code new.code cur.code
  type := column old.type new.type cur.type
  value := column old.value new.value cur.value
  plan_id := column old.plan_id new.plan_id cur.plan_id

/-- 佣金记录表 `commission_log`。 -/
structure CommissionLog where
  id : Int
  invite_user_id : Int
  user_id : Int
  trade_no : String
  order_amount : Int
  get_amount : Int
  deriving DecidableEq

/-- `UPDATE commission_log SET` the columns in which `new` differs from `old`. -/
def CommissionLog.merge (old new cur : CommissionLog) : CommissionLog where
  id := cur.id
  invite_user_id := column old.invite_user_id new.invite_user_id cur.invite_user_id
  user_id := column old.user_id new.user_id cur.user_id
  trade_no := column old.trade_no new.trade_no cur.trade_no
  order_amount := column old.order_amount new.order_amount cur.order_amount
  get_amount := column old.get_amount new.get_amount cur.get_amount

/-- 支付方式表 `payment`。 -/
structure Payment where
  id : Int
  uuid : String
  payment : String
  config : JsonDict
  notify_domain : Option String := none
  handling_fee_fixed : Option Int := none
  handling_fee_percent : Option PyFloat := none
  enable : Bool := false

/-- 配置表 `setting`。 -/
structure Setting where
  id : Int
  key : String
  value : String
  /-- str / int / bool / json -/
  type : String := "str"
  deriving DecidableEq

/-- `UPDATE setting SET` the columns in which `new` differs from `old`. -/
def Setting.merge (old new cur : Setting) : Setting where
  id := cur.id
  key := column old.key new.key cur.key
  value := column old.value new.value cur.value
  type := column old.type new.type cur.type

/-- The column `status` of a queue job. -/
inductive QueueJobStatus
  | pending
  | running
  | finished
  | failed
  deriving DecidableEq

/-- 队列任务由 PostgreSQL 表承载，Worker 通过 SKIP LOCKED 领取。 -/
structure QueueJob where
  id : Int
  queue : String := "default"
  job_name : String
  job_key : Option String := none
  args : List Json := []
  kwargs : JsonDict := []
  status : QueueJobStatus := .pending
  attempts : Int := 0
  max_tries : Int := 3
  scheduled_at : Int := 0
  reserved_at : Option Int := none
  finished_at : Option Int := none
  failed_at : Option Int := none
  last_error : Option String := none

/-- 失败队列任务表 `failed_jobs`。 -/
structure FailedJob where
  id : Int
  connection : String
  queue : String
  payload : Json
  exception : String
  failed_at : String

/-- 邀请码表 `invite_code`。 -/
structure InviteCode where
  id : Int
  user_id : Int
  code : String
  status : Int := 0
  pv : Int := 0
  deriving DecidableEq

/-- `UPDATE invite_code SET` the columns in which `new` differs from `old`. -/
def InviteCode.merge (old new cur : InviteCode) : InviteCode where
  id := cur.id
  user_id := column old.user_id new.user_id cur.user_id
  code := column old.code new.code cur.code
  status := column old.status new.status cur.status
  pv := column old.pv new.pv cur.pv

/-- V2Ray 节点表 `server_v2node`。  A JSONB column that is NULL holds `Json.null`. -/
structure ServerV2Node where
  id : Int
  group_id : Json
  route_id : Json := .null
  name : String
  parent_id : Option Int := none
  host : String
  listen_ip : String := "0.0.0.0"
  port : String
  server_port : Int
  tags : Json := .null
  rate : String
  «show» : Bool := false
  sort : Option Int := none
  protocol : String
  tls : Int
  tls_settings : Json := .null
  flow : Option String := none
  network : String
  network_settings : Json := .null
  encryption : Option String := none
  encryption_settings : Json := .null
  disable_sni : Bool := false
  udp_relay_mode : Option String := none
  zero_rtt_handshake : Bool := false
  congestion_control : Option String := none
  cipher : Option String := none
  up_mbps : Int := 0
  down_mbps : Int := 0
  obfs : Option String := none
  obfs_password : Option String := none
  padding_scheme : Json := .null
  created_at : Int := 0
  updated_at : Int := 0
  deriving DecidableEq

/-- `UPDATE server_v2node SET` the columns in which `new` differs from `old`. -/
def ServerV2Node.merge (old new cur : ServerV2Node) : ServerV2Node where
  id := cur.id
  group_id := column old.group_id new.group_id cur.group_id
  route_id := column old.route_id new.route_id cur.route_id
  name := column old.name new.name cur.name
  parent_id := column old.parent_id new.parent_id cur.parent_id
  host := column old.host new.host cur.host
  listen_ip := column old.listen_ip new.listen_ip cur.listen_ip
  port := column old.port new.port cur.port
  server_port := column old.server_port new.server_port cur.server_port
  tags := column old.tags new.tags cur.tags
  rate := column old.rate new.rate cur.rate
  «show» := column old.«show» new.«show» cur.«show»
  sort := column old.sort new.sort cur.sort
  protocol := column old.protocol new.protocol cur.protocol
  tls := column old.tls new.tls cur.tls
  tls_settings := column old.tls_settings new.tls_settings cur.tls_settings
  flow := column old.flow new.flow cur.flow
  network := column old.network new.network cur.network
  network_settings := column old.network_settings new.network_settings cur.network_settings
  encryption := column old.encryption new.encryption cur.encryption
  encryption_settings :=
    column old.encryption_settings new.encryption_settings cur.encryption_settings
  disable_sni := column old.disable_sni new.disable_sni cur.disable_sni
  udp_relay_mode := column old.udp_relay_mode new.udp_relay_mode cur.udp_relay_mode
  zero_rtt_handshake := column old.zero_rtt_handshake new.zero_rtt_handshake cur.zero_rtt_handshake
  congestion_control := column old.congestion_control new.congestion_control cur.congestion_control
  cipher := column old.cipher new.cipher cur.cipher
  up_mbps := column old.up_mbps new.up_mbps cur.up_mbps
  down_mbps := column old.down_mbps new.down_mbps cur.down_mbps
  obfs := column old.obfs new.obfs cur.obfs
  obfs_password := column old.obfs_password new.obfs_password cur.obfs_password
  padding_scheme := column old.padding_scheme new.padding_scheme cur.padding_scheme
  created_at := column old.created_at new.created_at cur.created_at
  updated_at := column old.updated_at new.updated_at cur.updated_at

/-- 服务器路由规则表 `server_route`。 -/
structure ServerRoute where
  id : Int
  remarks : String
  «match» : Json
  action : String
  action_value : Json := .null
  deriving DecidableEq

/-- `UPDATE server_route SET` the columns in which `new` differs from `old`. -/
def ServerRoute.merge (old new cur : ServerRoute) : ServerRoute where
  id := cur.id
  remarks := column old.remarks new.remarks cur.remarks
  «match» := column old.match new.match cur.match
  action := column old.action new.action cur.action
  action_value := column old.action_value new.action_value cur.action_value

/-- 节点数据统计表 `stat_server`。 -/
structure StatServer where
  id : Int
  server_id : Int
  server_type : String
  u : Int
  d : Int
  record_type : String
  record_at : Int
  deriving DecidableEq

/-- `UPDATE stat_server SET` the columns in which `new` differs from `old`. -/
def StatServer.merge (old new cur : StatServer) : StatServer where
  id := cur.id
  server_id := column old.server_id new.server_id cur.server_id
  server_type := column old.server_type new.server_type cur.server_type
  u := column old.u new.u cur.u
  d := column old.d new.d cur.d
  record_type := column old.record_type new.record_type cur.record_type
  record_at := column old.record_at new.record_at cur.record_at

/-- 用户数据统计表 `stat_user`。 -/
structure StatUser where
  id : Int
  user_id : Int
  server_rate : PyFloat
  u : Int
  d : Int
  record_type : String
  record_at : Int
  deriving DecidableEq

/-- `UPDATE stat_user SET` the columns in which `new` differs from `old`. -/
def StatUser.merge (old new cur : StatUser) : StatUser where
  id := cur.id
  user_id := column old.user_id new.user_id cur.user_id
  server_rate := column old.server_rate new.server_rate cur.server_rate
  u := column old.u new.u cur.u
  d := column old.d new.d cur.d
  record_type := column old.record_type new.record_type cur.record_type
  record_at := column old.record_at new.record_at cur.record_at

/-- 工单表 `ticket`。 -/
structure Ticket where
  id : Int
  user_id : Int
  subject : String
  level : Int
  /-- 0-已开启 1-已关闭 -/
  status : Int := 0
  /-- 0-待回复 1-已回复 -/
  reply_status : Int := 0
  created_at : Int
  deriving DecidableEq

/-- `UPDATE ticket SET` the columns in which `new` differs from `old`. -/
def Ticket.merge (old new cur : Ticket) : Ticket where
  id := cur.id
  user_id := column old.user_id new.user_id cur.user_id
  subject := column old.subject new.subject cur.subject
  level := column old.level new.level cur.level
  status := column old.status new.status cur.status
  reply_status := column old.reply_status new.reply_status cur.reply_status
  created_at := column old.created_at new.created_at cur.created_at

/-- 工单消息表 `ticket_message`。 -/
structure TicketMessage where
  id : Int
  user_id : Int
  ticket_id : Int
  message : String
  created_at : Int
  deriving DecidableEq

/-- `UPDATE ticket_message SET` the columns in which `new` differs from `old`. -/
def TicketMessage.merge (old new cur : TicketMessage) : TicketMessage where
  id := cur.id
  user_id := column old.user_id new.user_id cur.user_id
  ticket_id := column old.ticket_id new.ticket_id cur.ticket_id
  message := column old.message new.message cur.message
  created_at := column old.created_at new.created_at cur.created_at

/-- 运行期缓存表 `runtime_cache`。 -/
structure RuntimeCacheRow where
  key : String
  value : Json
  expires_at : Option Int

/-- The column `stage` of the traffic cache. -/
inductive TrafficStage
  | active
  | processing
  deriving DecidableEq

/-- 流量缓存表 `traffic_cache`。 -/
structure TrafficCacheRow where
  stage : TrafficStage
  user_id : Int
  u : Int := 0
  d : Int := 0
  deriving DecidableEq

/-- The primary key `(stage, user_id)`. -/
def TrafficCacheRow.key (r : TrafficCacheRow) : TrafficStage × Int := (r.stage, r.user_id)

/-- An advisory lock of the database. -/
structure AdvisoryLock where
  key : Int

end PyBoard
