/-
  PyBoard.Models.Schema — the tables of the application as a schema.

  The primary key of a table is its SERIAL `id`, except for the two caches.  The
  unique constraints are those of the initial migration.  The advisory locks are
  the keys of a table without rows.
-/
import PyBoard.Relational.Rely
import PyBoard.Models.Entities

namespace PyBoard

open Relational

/-- The tables the modelled services use. -/
inductive Tbl
  | users | orders | plan | coupon | giftcard | giftcard_redemption | commission_log
  | payment | setting | invite_code | runtime_cache | traffic_cache | advisory_lock
  | server_v2node | server_route | stat_server | stat_user | ticket | ticket_message
  deriving DecidableEq

/-- The rows of a table. -/
abbrev Tbl.Row : Tbl → Type
  | users => User
  | orders => Order
  | plan => Plan
  | coupon => Coupon
  | giftcard => Giftcard
  | giftcard_redemption => GiftcardRedemption
  | commission_log => CommissionLog
  | payment => Payment
  | setting => Setting
  | invite_code => InviteCode
  | runtime_cache => RuntimeCacheRow
  | traffic_cache => TrafficCacheRow
  | advisory_lock => AdvisoryLock
  | server_v2node => ServerV2Node
  | server_route => ServerRoute
  | stat_server => StatServer
  | stat_user => StatUser
  | ticket => Ticket
  | ticket_message => TicketMessage

/-- The type of the primary key: the SERIAL `id`, except for the caches. -/
abbrev Tbl.Key : Tbl → Type
  | users | orders | plan | coupon | giftcard | giftcard_redemption | commission_log
  | payment | setting | invite_code | server_v2node | server_route | stat_server | stat_user
  | ticket | ticket_message => Int
  | runtime_cache => String
  | traffic_cache => TrafficStage × Int
  | advisory_lock => Int

/-- The primary key. -/
def Tbl.key : (t : Tbl) → t.Row → t.Key
  | users => User.id
  | orders => Order.id
  | plan => Plan.id
  | coupon => Coupon.id
  | giftcard => Giftcard.id
  | giftcard_redemption => GiftcardRedemption.id
  | commission_log => CommissionLog.id
  | payment => Payment.id
  | setting => Setting.id
  | invite_code => InviteCode.id
  | runtime_cache => RuntimeCacheRow.key
  | traffic_cache => TrafficCacheRow.key
  | advisory_lock => AdvisoryLock.key
  | server_v2node => ServerV2Node.id
  | server_route => ServerRoute.id
  | stat_server => StatServer.id
  | stat_user => StatUser.id
  | ticket => Ticket.id
  | ticket_message => TicketMessage.id

/-- The UPDATE of a row.  No modelled operation updates a payment method, and
    the statements on the caches always set all their columns. -/
def Tbl.merge : (t : Tbl) → t.Row → t.Row → t.Row → t.Row
  | users => User.merge
  | orders => Order.merge
  | plan => Plan.merge
  | coupon => Coupon.merge
  | giftcard => Giftcard.merge
  | giftcard_redemption => GiftcardRedemption.merge
  | commission_log => CommissionLog.merge
  | payment => fun _ new cur => { new with id := cur.id }
  | setting => Setting.merge
  | invite_code => InviteCode.merge
  | runtime_cache => fun _ new cur => { new with key := cur.key }
  | traffic_cache => fun _ new cur => { new with stage := cur.stage, user_id := cur.user_id }
  | advisory_lock => fun _ _ cur => cur
  | server_v2node => ServerV2Node.merge
  | server_route => ServerRoute.merge
  | stat_server => StatServer.merge
  | stat_user => StatUser.merge
  | ticket => Ticket.merge
  | ticket_message => TicketMessage.merge

/-- The unique constraints besides the primary key. -/
def Tbl.conflict : (t : Tbl) → t.Row → t.Row → Bool
  | users => fun a b => a.email = b.email || a.token = b.token
  | orders => fun a b => a.trade_no = b.trade_no
  | giftcard_redemption => fun a b => a.giftcard_id = b.giftcard_id && a.user_id = b.user_id
  | commission_log => fun a b => a.trade_no = b.trade_no
  | setting => fun a b => a.key = b.key
  | _ => fun _ _ => false

theorem Tbl.key_merge (t : Tbl) (old new cur : t.Row) :
    t.key (t.merge old new cur) = t.key cur := by
  cases t <;> rfl

theorem Tbl.merge_self (t : Tbl) (old new : t.Row) (h : t.key old = t.key new) :
    t.merge old new old = new := by
  cases t <;> cases old <;> cases new <;> cases h <;>
    simp only [Tbl.merge, User.merge, Order.merge, Plan.merge, Coupon.merge, Giftcard.merge,
      GiftcardRedemption.merge, CommissionLog.merge, Setting.merge, InviteCode.merge,
      ServerV2Node.merge, ServerRoute.merge, StatServer.merge, StatUser.merge, Ticket.merge,
      TicketMessage.merge, column_self]

instance (t : Tbl) : DecidableEq t.Key := by cases t <;> infer_instance

instance : Schema Tbl where
  Row := Tbl.Row
  Key := Tbl.Key
  decKey := fun _ => inferInstance
  key := fun {t} r => t.key r
  merge := fun {t} => t.merge
  conflict := fun {t} => t.conflict
  key_merge := fun {t} => t.key_merge
  merge_self := fun {t} => t.merge_self

/-- A database program that may raise. -/
abbrev Db (α : Type) := Prog Tbl PyExc α

/-- The contents of the database. -/
abbrev Database := DB Tbl

/-- The empty database. -/
def Database.empty : Database := fun _ => Table.empty

end PyBoard
