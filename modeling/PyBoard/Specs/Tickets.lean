/-
  PyBoard.Specs.Tickets — what the ticket requests do to the open tickets.

  A request stores at most two versions of one ticket.  The open tickets stay apart as long
  as no other ticket of the user is open when one is stored as open (`Sole`).

  Main results: `leads_createTicket`, `leads_createWithdrawTicket`, `leads_replyUserTicket`,
  `leads_closeUserTicket`, `leads_replyAdminTicket` and `leads_closeAdminTicket`.
-/
import PyBoard.Relational.Leads
import PyBoard.Services.Ticket
import PyBoard.Specs.Auth

namespace PyBoard.TicketService

open Relational

variable {rt : Runtime} {U : Table Ticket.id}

/-! ## §1. Open tickets. -/

/-- No two open tickets belong to one user. -/
def OneOpenEach (U : Table Ticket.id) : Prop :=
  ∀ t ∈ U.rows, ∀ t' ∈ U.rows, t.status = 0 → t'.status = 0 → t.user_id = t'.user_id → t = t'

/-- If the ticket is open, no other one of its user is. -/
def Sole (U : Table Ticket.id) (t : Ticket) : Prop :=
  t.status = 0 → ∀ o ∈ U.rows, o.user_id = t.user_id → o.status = 0 → o.id = t.id

theorem OneOpenEach.put (h : OneOpenEach U) {t : Ticket} (hs : Sole U t) :
    OneOpenEach (U.put t) := by
  intro a ha b hb hopen hopen' huser
  rcases Table.mem_put.mp ha with rfl | ⟨hmem, hne⟩
  · rcases Table.mem_put.mp hb with rfl | ⟨hmem', hne'⟩
    · rfl
    · exact absurd (hs hopen b hmem' huser.symm hopen') hne'
  · rcases Table.mem_put.mp hb with rfl | ⟨hmem', hne'⟩
    · exact absurd (hs hopen' a hmem huser hopen) hne
    · exact h a hmem b hmem' hopen hopen' huser

/-- The count of `count_open_by_user`. -/
theorem OneOpenEach.count_le (h : OneOpenEach U) (user_id : Int) :
    (U.rows.filter fun t : Ticket => t.user_id = user_id && t.status = 0).length ≤ 1 := by
  refine U.length_filter_le_one fun t ht hp t' ht' hp' => ?_
  rw [Bool.and_eq_true, decide_eq_true_eq, decide_eq_true_eq] at hp hp'
  exact h t ht t' ht' hp.2 hp'.2 (hp.1.trans hp'.1.symm)

/-- A ticket that is stored is the only one. -/
theorem OneOpenEach.sole (h : OneOpenEach U) {t : Ticket} (hget : U.get? t.id = some t) :
    Sole U t := by
  intro hopen o ho huser hopen'
  rw [h o ho t (Table.mem_of_get? hget) hopen' hopen huser]

/-- Another version of the ticket, which does not open it. -/
theorem Sole.version {t t' : Ticket} (h : Sole U t) (hid : t'.id = t.id)
    (huser : t'.user_id = t.user_id) (hstatus : t'.status = 0 → t.status = 0) : Sole U t' := by
  intro hopen o ho hsame hopen'
  rw [hid]
  exact h (hstatus hopen) o ho (hsame.trans huser) hopen'

theorem Sole.of_closed {t : Ticket} (h : t.status = 1) : Sole U t := by
  intro hopen
  rw [h] at hopen
  cases hopen

/-! ## §2. Sessions. -/

/-- The session sees the tickets `U`. -/
abbrev Sees (U : Table Ticket.id) : State Tbl → List (Write Tbl) → Prop := Shows Tbl.ticket U

/-- The open tickets that the session sees are apart. -/
def Apart (s : State Tbl) (ws : List (Write Tbl)) : Prop := OneOpenEach (s.db.apply ws Tbl.ticket)

theorem sees_apart (h : OneOpenEach U) (s : State Tbl) (ws : List (Write Tbl)) (hs : Sees U s ws) :
    Apart s ws := by
  unfold Apart
  rw [show s.db.apply ws Tbl.ticket = U from hs]
  exact h

/-- The requests run alone. -/
abbrev single : Contract Unit Tbl := Contract.solo

theorem sees_stable : single.Stable (Sees U) := Shows.stable

theorem apart_stable : single.Stable Apart := by
  intro s s' ss hr _ h
  unfold Apart
  rw [hr.solo_db]
  exact h

theorem Apart.other {s : State Tbl} {ws : List (Write Tbl)} (h : Apart s ws) {w : Write Tbl}
    (hw : w.table ≠ .ticket) : Apart s (ws ++ [w]) :=
  sees_apart h s _ (Shows.other (U := s.db.apply ws Tbl.ticket) rfl hw)

theorem sees_cache (key : String) : CacheOpen single (Sees U) key where
  put row _ _ _ _ h := h.other (show Tbl.runtime_cache ≠ .ticket by decide)
  del _ _ _ h := h.other (show Tbl.runtime_cache ≠ .ticket by decide)

/-! ## §3. Statements. -/

variable {J : State Tbl → List (Write Tbl) → Prop}

theorem steady_createMessage (hJ : single.Stable J)
    (hput : ∀ (m : TicketMessage) s ws, single.Inv s → J s ws →
      J s (ws ++ [.put Tbl.ticket_message m])) (message_id user_id ticket_id : Int)
    (message : String) :
    single.Steady J (createMessage message_id user_id ticket_id message) :=
  .bind (steady_time hJ) fun _ => steady_create hJ (hput _)

theorem sees_message (m : TicketMessage) (s : State Tbl) (ws : List (Write Tbl))
    (_ : single.Inv s) (h : Sees U s ws) : Sees U s (ws ++ [.put Tbl.ticket_message m]) :=
  h.other (show Tbl.ticket_message ≠ .ticket by decide)

theorem apart_message (m : TicketMessage) (s : State Tbl) (ws : List (Write Tbl))
    (_ : single.Inv s) (h : Apart s ws) : Apart s (ws ++ [.put Tbl.ticket_message m]) :=
  h.other (show Tbl.ticket_message ≠ .ticket by decide)

theorem steady_ticketDetail (hJ : single.Stable J) (ticket : Ticket)
    (viewer_user_id : Option Int) (staff_view : Bool) :
    single.Steady J (ticketDetail ticket viewer_user_id staff_view) :=
  .bind (.bind (.select hJ _ _) fun _ => .ret _) fun _ => .ret _

/-- The UPDATE of a ticket that was read. -/
theorem leads_updateTicket {old new : Ticket} (hone : OneOpenEach U)
    (hget : U.get? old.id = some old) (hid : old.id = new.id) (hsole : Sole U new) :
    single.Leads (Sees U) Apart (updateRow .ticket old new) := by
  intro s ss hi hs
  refine wp_mono (leads_updateRow (t := Tbl.ticket) hget hid s ss hi hs) fun _ s' ss' hs' => ?_
  exact sees_apart (hone.put hsole) s' ss'.ws hs'

/-- **`_reply`** of a ticket that was read as `old`. -/
theorem leads_reply {message_id : Int} {old ticket : Ticket} {user_id : Int} {message : String}
    (hone : OneOpenEach U) (hget : U.get? old.id = some old) (hid : old.id = ticket.id)
    (hsole : Sole U ticket) :
    single.Leads (Sees U) Apart (reply message_id old ticket user_id message) := by
  have hone' : OneOpenEach (U.put ticket) := hone.put hsole
  have hstored : (U.put ticket).get? ticket.id = some ticket := Table.get?_put_self U ticket
  refine .bind (steady_createMessage sees_stable sees_message _ _ _ _) (fun _ => ?_)
    (sees_apart hone)
  refine .bind (leads_saveChanged (t := Tbl.ticket) hget hid) (fun _ => ?_) (sees_apart hone')
  exact leads_updateTicket hone' hstored rfl ((hone'.sole hstored).version rfl rfl fun h => h)

/-! ## §4. Users. -/

/-- The query for a ticket by its identifier. -/
theorem leads_getById {α : Type} {f : Option Ticket → Db α} {ticket_id : Int}
    {K : State Tbl → List (Write Tbl) → Prop} (hJ : single.Stable J)
    (hsees : ∀ s ws, J s ws → Sees U s ws) (hnone : single.Leads J K (f none))
    (hsome : ∀ ticket : Ticket, U.get? ticket.id = some ticket → ticket.id = ticket_id →
      single.Leads J K (f (some ticket))) :
    single.Leads J K (Prog.bind (TicketRepository.getById ticket_id) f) := by
  refine Shows.get_bind hJ hsees ?_
  show single.Leads J K (f (U.get? ticket_id))
  cases hfound : U.get? ticket_id with
  | none => exact hnone
  | some ticket =>
      have hid : ticket.id = ticket_id := Table.key_of_get? hfound
      rw [← hid] at hfound
      exact hsome ticket hfound hid

theorem steady_checkTicketStatus (user_id : Int) :
    single.Steady (Sees U) (checkTicketStatus rt user_id) := by
  refine .bind (steady_getInt rt sees_stable (sees_cache _) _) fun ticket_status => ?_
  refine .bind (steady_whenever (.bind (.bind (.select sees_stable _ _) fun _ => .ret _)
    fun _ => .ite (.ret _) (.throw _))) fun _ => ?_
  exact .ite (.throw _) (.ret _)

/-- A ticket is opened for a user without an open one. -/
theorem leads_openTicket (id message_id user_id : Int) (data : TicketCreate) (hone : OneOpenEach U)
    (hnone : ∀ o ∈ U.rows, o.user_id = user_id → o.status ≠ 0) :
    single.Leads (Sees U) Apart (openTicket rt id message_id user_id data) := by
  refine .bind (steady_time sees_stable) (fun created_at => ?_) (sees_apart hone)
  refine .bind (Shows.insert_bind (.throw _ (sees_apart hone)) (.ret _ fun s ws hs => ?_))
    (fun _ => ?_) fun _ _ h => h
  · refine sees_apart (hone.put fun _ o ho huser hopen => ?_) s ws hs
    exact absurd hopen (hnone o ho huser)
  · exact .bind (steady_createMessage apart_stable apart_message _ _ _ _)
      (fun _ => steady_ticketDetail apart_stable _ _ _) fun _ _ h => h

/-- **`create_ticket`** opens a ticket if none of the user is open. -/
theorem leads_createTicket (id message_id user_id : Int) (data : TicketCreate)
    (hone : OneOpenEach U) :
    single.Leads (Sees U) Apart (createTicket rt id message_id user_id data) := by
  have hend := sees_apart hone
  refine .ite (fun _ => .throw _ hend) fun _ => .ite (fun _ => .throw _ hend) fun _ => ?_
  unfold TicketRepository.countOpenByUser
  rw [Prog.bind_eq, Prog.bind_eq, Prog.bind_assoc]
  refine Shows.select_bind sees_stable (fun _ _ h => h) ?_
  refine .ite (fun _ => .throw _ hend) fun hcount => ?_
  refine .bind (steady_checkTicketStatus _) (fun _ => ?_) hend
  refine leads_openTicket id message_id user_id data hone fun o ho huser hopen => ?_
  -- the open ticket would have been counted
  have hmem : o ∈ U.rows.filter fun t : Ticket => t.user_id = user_id && t.status = 0 := by
    rw [List.mem_filter, huser, hopen]
    simp [ho]
  have hlength := List.length_pos_of_mem hmem
  omega

theorem leads_createWithdrawTicket (id message_id user_id : Int) (data : TicketWithdraw)
    (hone : OneOpenEach U) :
    single.Leads (Sees U) Apart (createWithdrawTicket rt id message_id user_id data) := by
  have hend := sees_apart hone
  refine .bind (steady_getInt rt sees_stable (sees_cache _) _) (fun closed => ?_) hend
  refine .ite (fun _ => .throw _ hend) fun _ => ?_
  refine .bind (steady_getJson sees_stable (sees_cache _) _) (fun methods => ?_) hend
  refine .bind (steady_liftExcept _) (fun offered => ?_) hend
  refine .ite (fun _ => ?_) fun _ => .throw _ hend
  refine .bind (Contract.Steady.get sees_stable _ _) (fun found => ?_) hend
  cases found with
  | none => exact .throw _ hend
  | some user =>
      refine .bind (steady_getInt rt sees_stable (sees_cache _) _) (fun limit_yuan => ?_) hend
      refine .ite (fun _ => .throw _ hend) fun _ => ?_
      exact leads_createTicket id message_id user_id _ hone

/-- A user replies to a ticket that is open. -/
theorem leads_replyUserTicket (message_id user_id ticket_id : Int) (data : TicketReply)
    (hone : OneOpenEach U) :
    single.Leads (Sees U) Apart (replyUserTicket rt message_id user_id ticket_id data) := by
  have hend := sees_apart hone
  refine leads_getById sees_stable (fun _ _ h => h) (.throw _ hend) fun ticket hget _ => ?_
  refine .ite (fun _ => .throw _ hend) fun _ => .ite (fun _ => .throw _ hend) fun _ => ?_
  refine .ite (fun _ => .throw _ hend) fun _ => ?_
  refine .bind (Contract.Steady.bind (.select sees_stable _ _) fun _ => .ret _)
    (fun last_message => ?_) hend
  refine .ite (fun _ => .throw _ hend) fun _ => ?_
  refine .bind (leads_reply hone hget rfl (hone.sole hget)) (fun replied => ?_) fun _ _ h => h
  exact steady_ticketDetail apart_stable _ _ _

/-- A ticket that was read is closed. -/
theorem leads_closeTicket {ticket : Ticket} (hone : OneOpenEach U)
    (hget : U.get? ticket.id = some ticket) :
    single.Leads (Sees U) Apart
      (Prog.bind (updateRow .ticket ticket { ticket with status := 1 }) fun _ => .ret true) := by
  refine .bind (leads_updateTicket hone hget rfl (.of_closed rfl)) (fun _ => ?_) fun _ _ h => h
  exact .ret _ fun _ _ h => h

theorem leads_closeUserTicket (user_id ticket_id : Int) (hone : OneOpenEach U) :
    single.Leads (Sees U) Apart (closeUserTicket user_id ticket_id) := by
  have hend := sees_apart hone
  refine leads_getById sees_stable (fun _ _ h => h) (.throw _ hend) fun ticket hget _ => ?_
  exact .ite (fun _ => .throw _ hend) fun _ => leads_closeTicket hone hget

/-! ## §5. Staff. -/

theorem leads_closeAdminTicket (ticket_id : Int) (hone : OneOpenEach U) :
    single.Leads (Sees U) Apart (closeAdminTicket ticket_id) := by
  have hend := sees_apart hone
  refine leads_getById sees_stable (fun _ _ h => h) (.throw _ hend) fun ticket hget _ => ?_
  exact leads_closeTicket hone hget

/-- The reply opens no second ticket. -/
def OpensFirst (U : Table Ticket.id) (ticket_id : Int) : Prop :=
  ∀ t ∈ U.rows, t.id = ticket_id → t.status ≠ 0 →
    ∀ o ∈ U.rows, o.user_id = t.user_id → o.status ≠ 0

/-- **A reply of the staff** opens the ticket again that it answers. -/
theorem leads_replyAdminTicket {message_id admin_user_id ticket_id : Int} {data : TicketReply}
    (hone : OneOpenEach U) (hfirst : rt.strip data.message ≠ "" → OpensFirst U ticket_id) :
    single.Leads (Sees U) Apart
      (replyAdminTicket rt message_id admin_user_id ticket_id data) := by
  have hend := sees_apart hone
  refine leads_getById sees_stable (fun _ _ h => h) (.throw _ hend) fun ticket hget hid => ?_
  refine .ite (fun _ => .throw _ hend) fun hmessage => ?_
  have hsole : Sole U { ticket with status := 0 } := by
    by_cases hopen : ticket.status = 0
    · exact (hone.sole hget).version rfl rfl fun _ => hopen
    · intro _ o ho huser hopen'
      have hclosed := hfirst hmessage ticket (Table.mem_of_get? hget) hid hopen o ho huser
      exact absurd hopen' hclosed
  refine .bind (leads_reply hone hget rfl hsole) (fun replied => ?_) fun _ _ h => h
  exact steady_ticketDetail apart_stable _ _ _

end PyBoard.TicketService
