/-
  PyBoard.Specs.Removals — what a guarded deletion has met before it deletes.

  A deletion writes nothing, or it removes its row and each of its queries has found nothing,
  at a moment of its own.

  Main results:
    * `Removal.guarded`.
-/
import PyBoard.Relational.Moments
import PyBoard.Services.Removal

namespace PyBoard

open Relational

variable {rt : Runtime} {L : Type} {R : Database → Prop} {lo hi : Int} {s : State Tbl}
  {ss : Session Tbl} {β : Type}

/-! ## §1. References. -/

/-- What the queries of a deletion look for, each at a time in a database. -/
def Removal.guards (rt : Runtime) : Removal → List (Int → Database → Prop)
  | .plan plan_id =>
      [fun _ D => ∀ o ∈ (D .orders).rows, Order.plan_id o ≠ plan_id,
        fun now D => ∀ u ∈ (D .users).rows,
          PlanRepository.isActiveUserOf plan_id now u = false]
  | .payment payment_id => [fun _ D => ∀ o ∈ (D .orders).rows, Order.payment_id o ≠ some payment_id]
  | .route route_id =>
      [fun _ D => ∀ n ∈ (D .server_v2node).rows,
        ∃ ids, intListCast rt (ServerV2Node.route_id n) = .ok ids ∧ route_id ∉ ids]

/-- Every query has found nothing, at a moment of its own. -/
def Removal.Guarded (rt : Runtime) (M : Int → Database → Prop) (op : Removal) : Prop :=
  ∀ g ∈ op.guards rt, ∃ now D, M now D ∧ g now D

/-- The row that goes. -/
def Removal.write : Removal → Write Tbl
  | .plan plan_id => .del .plan plan_id
  | .payment payment_id => .del .payment payment_id
  | .route route_id => .del .server_route route_id

/-- What the session of a deletion has written. -/
def Removal.Done (rt : Runtime) (M : Int → Database → Prop) (op : Removal) (ss : Session Tbl) :
    Prop := ss.ws = [] ∨ ss.ws = [op.write] ∧ op.Guarded rt M

/-! ## §2. Queries. -/

/-- A query for a reference. -/
theorem existsRow_bind {t : Tbl} {p : t.Row → Bool} {f : Bool → Db β}
    {Q : Except PyExc β → State Tbl → Session Tbl → Prop} (h : Clean R lo s ss)
    (hf : ∀ b s', Clean R lo s' ss → During R lo hi s'.now s'.db →
      (b = false → ∀ r ∈ (s'.db t).rows, p r = false) →
      wp (meeting R : Contract L Tbl) (f b) (Within hi Q) s' ss) :
    wp (meeting R : Contract L Tbl) ((existsRow t p).bind f) (Within hi Q) s ss := by
  unfold existsRow
  rw [Prog.bind_eq, Prog.bind_assoc]
  refine h.select_bind fun s' h' hnow => hf _ s' h' hnow fun hnone r hr => ?_
  have hlength : ¬0 < ((s'.db t).rows.filter p).length := of_decide_eq_false hnone
  have hempty : (s'.db t).rows.filter p = [] := List.eq_nil_of_length_eq_zero (by omega)
  exact Bool.eq_false_iff.mpr (List.filter_eq_nil_iff.mp hempty r hr)

/-- A row is deleted. -/
theorem wp_deleteRow {t : Tbl} (row : t.Row) (h : Clean R lo s ss) :
    wp (meeting R : Contract L Tbl) (deleteRow t row)
      (fun _ _ ss => ss.ws = [] ∨ ss.ws = [.del t (t.key row)]) s ss := by
  intro s' _ _ _
  show ((Stmt.delete t (t.key row)).exec s' ss).2.ws = [] ∨
    ((Stmt.delete t (t.key row)).exec s' ss).2.ws = [.del t (t.key row)]
  rw [Stmt.exec_delete]
  split
  · exact Or.inl h.nothing
  · refine Or.inr ?_
    show ss.ws ++ [_] = _
    rw [h.nothing]
    rfl

/-- The deletion that its queries allow. -/
theorem wp_removes {op : Removal} {t : Tbl} {row : t.Row} (h : Clean R lo s ss)
    (hwrite : op.write = .del t (t.key row)) (hguarded : op.Guarded rt (During R lo hi)) :
    wp (meeting R : Contract L Tbl) (deleteRow t row)
      (Within hi fun _ _ ss => op.Done rt (During R lo hi) ss) s ss :=
  wp_mono (wp_deleteRow row h) fun _ _ _ hend _ =>
    hend.imp_right fun hws => ⟨hwrite ▸ hws, hguarded⟩

/-- A check before the first query. -/
theorem wp_liftExcept_bind {x : Except PyExc Unit} {f : Unit → Db β}
    {Q : Except PyExc β → State Tbl → Session Tbl → Prop} (herr : ∀ e, Q (.error e) s ss)
    (hf : wp (meeting R : Contract L Tbl) (f ()) Q s ss) :
    wp (meeting R : Contract L Tbl) ((liftExcept x).bind f) Q s ss := by
  cases x with
  | error e => exact herr e
  | ok u => exact hf

/-- A deletion that is refused. -/
theorem not_removed {op : Removal} {α : Type} (h : Clean R lo s ss) (r : Except PyExc α) :
    Within hi (fun _ _ ss => op.Done rt (During R lo hi) ss) r s ss := fun _ => Or.inl h.nothing

/-- What the count of the nodes of a route says. -/
theorem nodesInRoute_spec {route_id : Int} {nodes : List ServerV2Node} {used : List Bool}
    (h : ServerAdminService.nodesInRoute rt route_id nodes = .ok used)
    (hnone : used.count true = 0) :
    ∀ n ∈ nodes, ∃ ids, intListCast rt n.route_id = .ok ids ∧ route_id ∉ ids := by
  have hall := forall₂_of_mapM_ok h
  intro n hn
  have hmem : n ∈ nodes.mergeSort ServerV2NodeRepository.inOrder := List.mem_mergeSort.mpr hn
  generalize nodes.mergeSort ServerV2NodeRepository.inOrder = sorted at hall hmem
  have hfalse : true ∉ used := List.count_eq_zero.mp hnone
  clear hnone h
  induction hall with
  | nil => cases hmem
  | @cons node b rest rest' hfirst _ ih =>
    cases hmem with
    | tail _ hmem => exact ih hmem fun htrue => hfalse (List.mem_cons_of_mem _ htrue)
    | head =>
      cases hids : intListCast rt n.route_id with
      | error e =>
        rw [hids] at hfirst
        cases hfirst
      | ok ids =>
        refine ⟨ids, rfl, fun hroute => hfalse ?_⟩
        rw [hids] at hfirst
        have htrue : true = b := (decide_eq_true hroute).symm.trans (Except.ok.inj hfirst)
        exact htrue ▸ List.mem_cons_self

/-! ## §3. Deletions. -/

theorem PlanService.delete_guarded (plan_id : Int) (h : Clean R lo s ss) :
    wp (meeting R : Contract L Tbl) (PlanService.delete plan_id)
      (Within hi fun _ _ ss => (Removal.plan plan_id).Done rt (During R lo hi) ss) s ss := by
  refine wp_liftExcept_bind (fun e => not_removed h _) ?_
  refine existsRow_bind h fun ordered s₁ h₁ hmet₁ horders => ?_
  cases ordered with
  | true => exact not_removed h₁ _
  | false =>
    show wp _ ((PlanRepository.hasActiveUsers plan_id).bind _) _ s₁ ss
    unfold PlanRepository.hasActiveUsers
    rw [Prog.bind_eq, Prog.bind_assoc]
    refine h₁.clock_bind fun s₂ h₂ hmet₂ => ?_
    refine existsRow_bind h₂ fun active s₃ h₃ hmet₃ husers => ?_
    cases active with
    | true => exact not_removed h₃ _
    | false =>
      refine h₃.get_bind fun s₄ ss₄ h₄ _ => ?_
      cases hplan : (s₄.db Tbl.plan).get? plan_id with
      | none => exact not_removed h₄ _
      | some plan =>
        have hid : Plan.id plan = plan_id := Table.key_of_get? hplan
        refine wp_removes h₄ (by rw [← hid]; rfl) ?_
        intro g hg
        cases hg with
        | head =>
          exact ⟨_, _, hmet₁, fun o ho => of_decide_eq_false (horders rfl o ho)⟩
        | tail _ hg =>
          -- the time was read before the query
          rw [List.mem_singleton.mp hg]
          exact ⟨s₂.now, s₃.db, ⟨hmet₃.1, hmet₂.2.1, hmet₂.2.2⟩, husers rfl⟩

theorem PaymentService.deletePayment_guarded (payment_id : Int) (h : Clean R lo s ss) :
    wp (meeting R : Contract L Tbl) (PaymentService.deletePayment payment_id)
      (Within hi fun _ _ ss => (Removal.payment payment_id).Done rt (During R lo hi) ss) s ss := by
  refine wp_liftExcept_bind (fun e => not_removed h _) ?_
  refine h.get_bind fun s₁ ss₁ h₁ _ => ?_
  cases hpayment : (s₁.db Tbl.payment).get? payment_id with
  | none => exact not_removed h₁ _
  | some payment =>
    refine existsRow_bind h₁ fun ordered s₂ h₂ hmet₂ horders => ?_
    cases ordered with
    | true => exact not_removed h₂ _
    | false =>
      have hid : Payment.id payment = payment_id := Table.key_of_get? hpayment
      refine wp_removes h₂ (by rw [← hid]; rfl) ?_
      intro g hg
      rw [List.mem_singleton.mp hg]
      exact ⟨_, _, hmet₂, fun o ho => of_decide_eq_false (horders rfl o ho)⟩

theorem ServerAdminService.deleteRoute_guarded (route_id : Int) (h : Clean R lo s ss) :
    wp (meeting R : Contract L Tbl) (ServerAdminService.deleteRoute rt route_id)
      (Within hi fun _ _ ss => (Removal.route route_id).Done rt (During R lo hi) ss) s ss := by
  refine wp_liftExcept_bind (fun e => not_removed h _) ?_
  refine h.get_bind fun s₁ ss₁ h₁ _ => ?_
  cases hroute : (s₁.db Tbl.server_route).get? route_id with
  | none => exact not_removed h₁ _
  | some route =>
    show wp _ ((ServerAdminService.countNodesInRoute rt route_id).bind _) _ s₁ ss₁
    unfold ServerAdminService.countNodesInRoute
    rw [Prog.bind_eq, Prog.bind_assoc]
    refine h₁.select_bind fun s₂ h₂ hmet₂ => ?_
    cases hused : ServerAdminService.nodesInRoute rt route_id
        ((s₂.db Tbl.server_v2node).rows.filter fun _ => true) with
    | error e => exact not_removed h₂ _
    | ok used =>
      show wp _ (if used.count true ≠ 0 then _ else _) _ s₂ ss₁
      split
      · exact not_removed h₂ _
      · next hnone =>
        have hid : ServerRoute.id route = route_id := Table.key_of_get? hroute
        refine wp_removes h₂ (by rw [← hid]; rfl) ?_
        intro g hg
        rw [List.mem_singleton.mp hg]
        refine ⟨_, _, hmet₂, fun n hn => ?_⟩
        refine nodesInRoute_spec hused (not_not.mp hnone) n ?_
        exact List.mem_filter.mpr ⟨hn, rfl⟩

/-- **A deletion writes nothing, or its queries have found nothing.** -/
theorem Removal.guarded (op : Removal) (h : Clean R lo s ss) :
    wp (meeting R : Contract L Tbl) (op.prog rt)
      (Within hi fun _ _ ss => op.Done rt (During R lo hi) ss) s ss := by
  cases op with
  | plan plan_id => exact PlanService.delete_guarded plan_id h
  | payment payment_id => exact PaymentService.deletePayment_guarded payment_id h
  | route route_id => exact ServerAdminService.deleteRoute_guarded route_id h

end PyBoard
