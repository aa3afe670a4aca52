/-
  PyBoard.Results.Fees — the handling fee after a run of checkouts.

  A checkout stores the fee of its payment method only if it is positive, so a free
  method leaves the fee of an earlier one on the order.  The driver is handed the stored
  fee, and a notification is compared with it: both are the price with the fee of the last
  method exactly if that fee is positive or no earlier one was (`invoice_exact_iff`).
-/
import PyBoard.Python.Utc
import PyBoard.Specs.Instant
import PyBoard.Specs.Orders

namespace PyBoard

open Relational

variable {rt : Runtime}

/-! ## §1. The fee that is kept. -/

/-- What is stored when a method charges `fee`. -/
def keepFee (stored : Option Int) (fee : Int) : Option Int :=
  if fee > 0 then some fee else stored

/-- The stored fee after several checkouts, first to last. -/
def keptFee (stored : Option Int) (fees : List Int) : Option Int := fees.foldl keepFee stored

theorem keptFee_append (stored : Option Int) (fees : List Int) (fee : Int) :
    keptFee stored (fees ++ [fee]) = keepFee (keptFee stored fees) fee := by
  simp [keptFee]

/-- The stored fee is an earlier positive one, or there was none. -/
theorem keptFee_cases (stored : Option Int) (fees : List Int) :
    (∃ fee ∈ fees, 0 < fee ∧ keptFee stored fees = some fee) ∨
      ((∀ fee ∈ fees, fee ≤ 0) ∧ keptFee stored fees = stored) := by
  induction fees using List.reverseRecOn with
  | nil => exact Or.inr ⟨by simp, rfl⟩
  | append_singleton fees fee ih =>
    rw [keptFee_append]
    by_cases hfee : fee > 0
    · refine Or.inl ⟨fee, by simp, hfee, ?_⟩
      rw [keepFee, if_pos hfee]
    · rw [keepFee, if_neg hfee]
      rcases ih with ⟨earlier, hmem, hpos, hkept⟩ | ⟨hnone, hkept⟩
      · exact Or.inl ⟨earlier, List.mem_append_left _ hmem, hpos, hkept⟩
      · refine Or.inr ⟨?_, hkept⟩
        intro f hf
        rcases List.mem_append.mp hf with hf | hf
        · exact hnone f hf
        · rw [List.mem_singleton.mp hf]
          omega

/-- **When the last fee is the stored one.** -/
theorem keptFee_exact_iff (stored : Option Int) (fees : List Int) (fee : Int) :
    (keepFee (keptFee stored fees) fee).getD 0 = fee ↔
      0 < fee ∨ ((∀ earlier ∈ fees, earlier ≤ 0) ∧ stored.getD 0 = fee) := by
  by_cases hfee : fee > 0
  · rw [keepFee, if_pos hfee]
    simp [hfee]
  · rw [keepFee, if_neg hfee]
    rcases keptFee_cases stored fees with ⟨earlier, hmem, hpos, hkept⟩ | ⟨hnone, hkept⟩
    · rw [hkept]
      constructor
      · intro heq
        have heq' : earlier = fee := heq
        omega
      · rintro (hlt | ⟨hno, -⟩)
        · omega
        · have := hno earlier hmem
          omega
    · rw [hkept]
      constructor
      · intro heq
        exact Or.inr ⟨hnone, heq⟩
      · rintro (hlt | ⟨-, heq⟩)
        · omega
        · exact heq

/-! ## §2. One checkout. -/

/-- **A checkout of the order with a payment method**: it charges the fee, and its request
    returns the answer. -/
structure CheckedOut (rt : Runtime) (s : State Tbl) (o : Order) (p : Payment) (fee : Int)
    (answer : Json) (ss : Session Tbl) : Prop where
  stored : (s.db .orders).get? o.id = some o
  pending : o.status = 0
  costs : 0 < o.total_amount
  method : (s.db .payment).get? p.id = some p
  charges : OrderService.handlingFee p o.total_amount = .ok fee
  returns : ∃ fresh, (OrderService.checkout rt fresh o.user_id o.trade_no p.id).run s
    Session.fresh = (.ok answer, ss)

/-- The order after a checkout. -/
def Order.checkedOut (o : Order) (p : Payment) (fee : Int) : Order :=
  o.invoiced (keepFee o.handling_amount fee) p.id

/-- What the order costs with the fee that it carries. -/
def Order.invoice (o : Order) : Int := o.total_amount + o.handling_amount.getD 0

/-- The driver of the method was handed the amount for the order, and gave the answer. -/
def HandedOver (rt : Runtime) (p : Payment) (o : Order) (amount : Int) (answer : Json) : Prop :=
  ∃ gateway config request, createPaymentGateway rt p.payment p.config = .ok (gateway, config) ∧
    request.trade_no = o.trade_no ∧ request.total_amount = amount ∧
    gateway.pay config request = .ok answer

variable {s : State Tbl} {ss ss' : Session Tbl} {o : Order} {p : Payment} {fee : Int}
  {answer : Json}

/-- The flush of a changed order, or of one that is as before. -/
theorem run_flush {new : Order} (ho : (s.view ss .orders).get? o.id = some o) (hid : new.id = o.id)
    (h : (OrderService.flush o new).run s ss = (.ok (), ss')) :
    (s.view ss' .orders).get? o.id = some new := by
  unfold OrderService.flush whenever at h
  by_cases hchanged : o ≠ new
  · rw [if_pos hchanged, run_save (t := .orders) ho hid.symm] at h
    cases h
    rw [view_write_self (t := .orders), ← hid]
    exact Table.get?_put_self _ new
  · rw [if_neg hchanged] at h
    cases h
    rw [← not_not.mp hchanged]
    exact ho

/-- The driver is handed the price with the stored fee. -/
theorem run_pay {trade_no : String}
    (h : (OrderService.pay rt p o trade_no).run s ss = (.ok answer, ss')) :
    ss' = ss ∧ HandedOver rt p o o.invoice answer := by
  refine ⟨run_of_reads_eq (reads_pay p o trade_no) h, ?_⟩
  unfold OrderService.pay at h
  obtain ⟨⟨gateway, config⟩, hgateway, h⟩ := run_liftExcept_bind h
  obtain ⟨app_url, ss₁, -, h⟩ := Prog.run_bind_ok h
  obtain ⟨route, hroute, h⟩ := run_liftExcept_bind h
  rw [run_liftExcept] at h
  exact ⟨gateway, config, _, hgateway, rfl, rfl, congrArg Prod.fst h⟩

/-- **What a checkout stores and hands over.** -/
theorem CheckedOut.outcome (h : CheckedOut rt s o p fee answer ss) :
    (s.view ss .orders).get? o.id = some (o.checkedOut p fee) ∧
      HandedOver rt p o (o.checkedOut p fee).invoice answer := by
  obtain ⟨fresh, hrun⟩ := h.returns
  unfold OrderService.checkout OrderRepository.getPendingByTradeNo at hrun
  obtain ⟨o?, ss₁, hfind, hrun⟩ := Prog.run_bind_ok hrun
  obtain ⟨rfl, rfl⟩ := run_selectOne_eq hfind h.stored (by simp [h.pending])
  dsimp only at hrun
  rw [if_neg (not_le.mpr h.costs)] at hrun
  unfold PaymentRepository.getEnabledById at hrun
  obtain ⟨p?, ss₂, hfind', hrun⟩ := Prog.run_bind_ok hrun
  obtain ⟨rfl, hfilter⟩ := run_selectOne hfind'
  cases p? with
  | none => cases hrun
  | some p' =>
    -- the method that is found is the one that is stored
    have hmem : p' ∈ (s.view Session.fresh .payment).rows.filter
        (fun x : Payment => x.id = p.id && x.enable) := by
      rw [hfilter]
      exact List.mem_singleton_self p'
    obtain ⟨hmem, hp'⟩ := List.mem_filter.mp hmem
    have hid : p'.id = p.id := by
      simp only [Bool.and_eq_true, decide_eq_true_eq] at hp'
      exact hp'.1
    have hsame : p' = p := (s.db .payment).eq_of_key_eq hmem (Table.mem_of_get? h.method) hid
    rw [hsame] at hrun
    dsimp only at hrun
    obtain ⟨fee', hfee, hrun⟩ := run_liftExcept_bind hrun
    rw [h.charges] at hfee
    cases hfee
    obtain ⟨_, ss₃, hflush, hpay⟩ := Prog.run_bind_ok hrun
    obtain ⟨rfl, hhanded⟩ := run_pay hpay
    exact ⟨run_flush (show (s.view Session.fresh .orders).get? o.id = some o from h.stored) rfl
      hflush, hhanded⟩

/-! ## §3. Runs of checkouts. -/

/-- Checkouts of the order with the key `id`, one after the other, with the fees that they
    charged.  Between two of them anything may happen that does not touch the order. -/
inductive Checkouts (rt : Runtime) (id : Int) (s₀ : State Tbl) : List Int → State Tbl → Prop
  | nothing : Checkouts rt id s₀ [] s₀
  | elsewhere {fees : List Int} {s s' : State Tbl} (h : Checkouts rt id s₀ fees s)
      (hsame : (s'.db .orders).get? id = (s.db .orders).get? id) : Checkouts rt id s₀ fees s'
  | checkout {fees : List Int} {s : State Tbl} {ss : Session Tbl} {o : Order} {p : Payment}
      {fee : Int} {answer : Json} (h : Checkouts rt id s₀ fees s)
      (hc : CheckedOut rt s o p fee answer ss) (hid : o.id = id) :
      Checkouts rt id s₀ (fees ++ [fee]) (s.commit ss)

/-- **What a run of checkouts leaves of the order**: nothing but its fee and its method has
    changed. -/
theorem Checkouts.stored {o₀ : Order} {s₀ : State Tbl} {fees : List Int}
    (h : Checkouts rt o₀.id s₀ fees s) (h₀ : (s₀.db .orders).get? o₀.id = some o₀) :
    ∃ o, (s.db .orders).get? o₀.id = some o ∧ o.terms = o₀.terms ∧
      o.handling_amount = keptFee o₀.handling_amount fees := by
  induction h with
  | nothing => exact ⟨o₀, h₀, rfl, rfl⟩
  | elsewhere _ hsame ih =>
    rw [hsame]
    exact ih
  | @checkout fees s ss o p fee answer _ hc hid ih =>
    obtain ⟨o', ho', hterms, hfee⟩ := ih
    have hstored := hc.stored
    rw [hid, ho'] at hstored
    cases hstored
    refine ⟨o.checkedOut p fee, hid ▸ hc.outcome.1, hterms, ?_⟩
    rw [keptFee_append, ← hfee]
    rfl

/-- **What a notification for the order has to have paid**, wherever the order is stored under
    its own trade number: it fails with any other amount, and with this one it answers
    success if the order can be opened. -/
def ExpectsPaid (rt : Runtime) (p : Payment) (o : Order) (amount : Int) : Prop :=
  ∀ (s : State Tbl) (fresh : Fresh) (notify : PaymentNotifyResult),
    (s.db .orders).get? o.id = some o →
    (∀ o' ∈ (s.db .orders).rows, o'.trade_no = o.trade_no → o' = o) →
    notify.trade_no = o.trade_no →
    (notify.paid_amount ≠ some amount →
      (OrderService.settleNotify rt fresh p notify).run s Session.fresh
        = (.ok "fail", Session.fresh)) ∧
    (notify.paid_amount = some amount → ∀ ss,
      (OrderService.processPaidOrder rt fresh o.id (some notify.callback_no)).run s Session.fresh
        = (.ok (), ss) →
      (OrderService.settleNotify rt fresh p notify).run s Session.fresh = (.ok "success", ss))

/-- A notification is compared with the stored fee. -/
theorem expectsPaid_invoice (hmethod : o.payment_id = some p.id) (hst : o.status = 0) :
    ExpectsPaid rt p o o.invoice := by
  unfold Order.invoice
  intro s fresh notify ho hunique htrade
  have hfind : (s.view Session.fresh .orders).rows.filter
      (fun x : Order => decide (x.trade_no = notify.trade_no)) = [o] := by
    refine Table.filter_eq_singleton _ (Table.mem_of_get? ho) (by simp [htrade]) fun x hx hp => ?_
    exact hunique x hx (by rw [← htrade]; simpa using hp)
  unfold OrderService.settleNotify OrderRepository.getByTradeNo
  simp only [Prog.bind_eq, Prog.bind_assoc, Prog.run_select_bind]
  rw [hfind]
  simp only [scalarOneOrNone, Prog.pure_eq, Prog.bind]
  rw [if_neg (not_not.mpr hmethod)]
  constructor
  · intro hne
    rw [if_pos hne]
    rfl
  · intro heq ss hopen
    rw [if_neg (not_not.mpr heq), if_neg (by omega), Prog.run_tryCatch, Prog.run_bind, hopen]
    rfl

/-- **When the fee does not depend on earlier checkouts**: the amount that the last checkout
    hands to its driver, and that a notification has to have paid, is the price with the fee
    of the last method exactly if that fee is positive, or if no earlier fee was and the
    order came with it. -/
theorem invoice_exact_iff {o₀ : Order} {s₀ : State Tbl} {fees : List Int}
    (h : Checkouts rt o₀.id s₀ fees s) (h₀ : (s₀.db .orders).get? o₀.id = some o₀)
    (hlast : CheckedOut rt s o p fee answer ss) (hid : o.id = o₀.id) :
    ∃ o', ((s.commit ss).db .orders).get? o₀.id = some o' ∧ o'.terms = o₀.terms ∧
      HandedOver rt p o' o'.invoice answer ∧ ExpectsPaid rt p o' o'.invoice ∧
      (o'.invoice = o₀.total_amount + fee ↔
        0 < fee ∨ ((∀ earlier ∈ fees, earlier ≤ 0) ∧ o₀.handling_amount.getD 0 = fee)) := by
  obtain ⟨o₁, ho₁, hterms, hkept⟩ := h.stored h₀
  have hstored := hlast.stored
  rw [hid, ho₁] at hstored
  cases hstored
  obtain ⟨hafter, hhanded⟩ := hlast.outcome
  refine ⟨o.checkedOut p fee, hid ▸ hafter, hterms, hhanded,
    expectsPaid_invoice rfl hlast.pending, ?_⟩
  have htotal : o.total_amount = o₀.total_amount := congrArg (fun t => t.2.2.2.2.1) hterms
  have hinvoice : (o.checkedOut p fee).invoice
      = o₀.total_amount + (keepFee (keptFee o₀.handling_amount fees) fee).getD 0 := by
    rw [← hkept, ← htotal]
    rfl
  rw [hinvoice, ← keptFee_exact_iff]
  omega

/-- A driver that answers with the amount that it is handed. -/
def echoGateway : PaymentGateway where
  gateway := "Echo"
  aliases := []
  required_config := []
  pay _ request := .ok (.int request.total_amount)
  verify_notify _ _ := .ok { success := false }

def echoing : Runtime := Utc.runtime (fun _ => none) (fun _ _ => none) [echoGateway]

/-- A method of this driver with a fixed fee. -/
def echoMethod (id fee : Int) : Payment :=
  { id := id, uuid := "", payment := "Echo", config := [], enable := true,
    handling_fee_fixed := some fee }

/-- An order of 10.00. -/
def tenYuan : Order :=
  { id := 1, user_id := 1, plan_id := 1, period := "month_price", trade_no := "T",
    total_amount := 1000, type := 1, created_at := 0 }

/-- The order, a method that charges 1.00 and one that is free. -/
def twoMethods : Database
  | .orders => ⟨[tenYuan], List.nodup_singleton _⟩
  | .payment => ⟨[echoMethod 1 100, echoMethod 2 0], by decide⟩
  | _ => Table.empty

/-- What the driver is handed when the order is checked out with some methods in turn. -/
def handedInTurn (s : State Tbl) : List Int → List (Option Int)
  | [] => []
  | method :: methods =>
    let (answer, ss) := (OrderService.checkout echoing ⟨0, 0, ""⟩ 1 "T" method).run s Session.fresh
    (match answer with
      | .ok (.int amount) => some amount
      | _ => none) :: handedInTurn (s.commit ss) methods

/-- **The free method is handed the fee of the other one** when that was tried first. -/
theorem free_method_charged :
    handedInTurn ⟨twoMethods, 0⟩ [1, 2] = [some 1100, some 1100] ∧
      OrderService.handlingFee (echoMethod 2 0) tenYuan.total_amount = .ok 0 := by
  decide +kernel

/-- The free method is tried first: the fee is that of the other one. -/
theorem invoice_exact_charged : ∃ (s : State Tbl) (ss : Session Tbl) (o' : Order),
    CheckedOut echoing s (tenYuan.checkedOut (echoMethod 2 0) 0) (echoMethod 1 100) 100
        (.int 1100) ss ∧
      ((s.commit ss).db .orders).get? (1 : Int) = some o' ∧ o'.invoice = 1000 + 100 := by
  have hfree : CheckedOut echoing ⟨twoMethods, 0⟩ tenYuan (echoMethod 2 0) 0 (.int 1000)
      ((OrderService.checkout echoing ⟨0, 0, ""⟩ 1 "T" 2).run ⟨twoMethods, 0⟩ Session.fresh).2 :=
    ⟨rfl, rfl, by decide, rfl, rfl, ⟨0, 0, ""⟩, Prod.ext rfl rfl⟩
  have hcharged : CheckedOut echoing _ (tenYuan.checkedOut (echoMethod 2 0) 0) (echoMethod 1 100)
      100 (.int 1100) ((OrderService.checkout echoing ⟨0, 0, ""⟩ 1 "T" 1).run
        (State.commit ⟨twoMethods, 0⟩ _) Session.fresh).2 :=
    ⟨hfree.outcome.1, rfl, by decide, rfl, rfl, ⟨0, 0, ""⟩, Prod.ext rfl rfl⟩
  have hrun : Checkouts echoing tenYuan.id ⟨twoMethods, 0⟩ [0] _ := .checkout .nothing hfree rfl
  obtain ⟨o', ho', -, -, -, hexact⟩ := invoice_exact_iff hrun rfl hcharged rfl
  exact ⟨_, _, o', hcharged, ho', hexact.mpr (Or.inl (by decide))⟩

end PyBoard
