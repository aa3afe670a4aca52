/-
  PyBoard.Results.Callbacks — which posted notifications are answered.

  The handler answers "success" or "fail" where the driver can read what it compares, where
  what it hands to the database are texts that the database takes, and where the opening of
  the paid order can be computed.  A posted object can fail each of this.

  Main results:
    * `refusesOnly_processPaidOrder_iff` — the opening, whatever the order is.
    * `settleNotify_answers_iff` — the part after the driver.
    * `paymentNotify_answers_iff` — the whole handler.
-/
import PyBoard.Controllers.Payment
import PyBoard.Python.Utc
import PyBoard.Results.Deposits
import PyBoard.Specs.Epay
import PyBoard.Specs.Failures
import PyBoard.Specs.Orders

namespace PyBoard.PaymentController

open Relational

variable {rt : Runtime} {libs : EpayLibs} {nesting : Nesting} {fresh : Fresh} {s : State Tbl}

/-- The handler has answered, and raised nothing. -/
def Answers (r : Except PyExc String × Session Tbl) : Prop :=
  r.1 = .ok "success" ∨ r.1 = .ok "fail"

theorem not_answers_error {e : PyExc} {ss : Session Tbl} : ¬Answers (.error e, ss) := by
  rintro (h | h) <;> cases h

/-! ## §1. The database's texts. -/

/-- A text that PostgreSQL takes, of at most so many characters. -/
structure PgText (length : Option Nat) (value : PyJson) (t : PyStr) : Prop where
  text : value = .str t
  encodable : t.Encodable
  no_zero : (0 : CodePoint) ∉ t
  fits : ∀ n, length = some n → t.length ≤ n

theorem textParam_isOk_iff {length : Option Nat} {value : PyJson} :
    (∃ t, textParam length value = .ok t) ↔ ∃ t, PgText length value t := by
  have hencodable : ∀ t : PyStr, (t.any fun c => isSurrogate c.val) = false ↔ t.Encodable := by
    intro t
    unfold PyStr.Encodable
    simp
  cases value with
  | str t =>
      unfold textParam PyStr.toString?
      dsimp only
      constructor
      · rintro ⟨t', h⟩
        by_cases hsurrogate : (t.any fun c => isSurrogate c.val) = true
        · rw [if_pos hsurrogate] at h
          cases h
        rw [if_neg hsurrogate] at h
        dsimp only at h
        split at h
        · cases h
        next hbad =>
        refine ⟨t, rfl, (hencodable t).mp (Bool.eq_false_iff.mpr hsurrogate), ?_, ?_⟩
        · exact fun hzero => hbad (Or.inl hzero)
        · intro n hn
          by_contra hlong
          exact hbad (Or.inr (by simp [hn]; omega))
      · rintro ⟨t', htext, hplain, hzero, hfits⟩
        cases htext
        have hsurrogate := (hencodable t).mpr hplain
        rw [if_neg (by simp [hsurrogate])]
        dsimp only
        refine ⟨_, if_neg ?_⟩
        rintro (h | h)
        · exact hzero h
        · cases length with
          | none => cases h
          | some n =>
              have hle := hfits n rfl
              simp at h
              omega
  | _ =>
      constructor
      · rintro ⟨_, h⟩
        cases h
      · rintro ⟨_, h, -⟩
        cases h

/-! ## §2. The opening. -/

section

variable {settings : SettingSource} {o : Order} {user : User} {cb : Option String}

/-- The balance has room for the deposit and for the bonus under the text that is read. -/
structure DepositComputes (rt : Runtime) (settings : SettingSource) (s : State Tbl) (o : Order)
    (user : User) : Prop where
  room : user.balance + o.total_amount ≤ OrderService.INTEGER_MAX
  bonus : ∃ text, settings.text rt s Session.fresh "deposit_bounus" = .ok text ∧
    ∀ t, text = some t → DepositPasses rt t o.total_amount
      (OrderService.INTEGER_MAX - (user.balance + o.total_amount))

/-- **The opening of the order can be computed**, if its user is stored: a deposit can be credited
    and completed, and a plan that is stored can be opened. -/
structure OpeningComputes (rt : Runtime) (settings : SettingSource) (s : State Tbl) (o : Order) :
    Prop where
  deposit : ∀ user, (s.db .users).get? o.user_id = some user → OrderService.isDeposit o = true →
    DepositComputes rt settings s o user ∧ CompletionComputes rt settings s o user
  plan : ∀ user plan, (s.db .users).get? o.user_id = some user →
    OrderService.isDeposit o = false → (s.db .plan).get? o.plan_id = some plan →
      PlanComputes rt settings s o user plan

/-- A bonus is never negative, so that the deposit alone must have room. -/
theorem depositComputes_iff :
    DepositComputes rt settings s o user ↔
      ∃ bonus, settings.bonus rt s Session.fresh o.total_amount = .ok bonus ∧
        user.balance + o.total_amount + bonus ≤ OrderService.INTEGER_MAX := by
  cases htext : settings.text rt s Session.fresh "deposit_bounus" with
  | error e =>
    refine iff_of_false (fun ⟨_, text, hok, _⟩ => ?_) fun ⟨bonus, hbonus, _⟩ => ?_
    · cases htext.symm.trans hok
    · unfold SettingSource.bonus at hbonus
      rw [htext] at hbonus
      cases hbonus
  | ok text =>
  rw [SettingSource.bonus_of_text htext]
  cases text with
  | none =>
    constructor
    · exact fun h => ⟨0, rfl, by have := h.room; omega⟩
    · rintro ⟨bonus, hbonus, hroom⟩
      cases hbonus
      exact ⟨by omega, none, htext, fun t ht => by cases ht⟩
  | some text =>
    constructor
    · rintro ⟨hroom, text', htext', hpasses⟩
      cases htext.symm.trans htext'
      obtain ⟨hbonus, hle⟩ := (depositPasses_iff (by omega)).mp (hpasses text rfl)
      exact ⟨_, hbonus, by omega⟩
    · rintro ⟨bonus, hbonus, hle⟩
      have heq := bonusOfText_eq hbonus
      have hpos : 0 ≤ bonus := by
        rw [heq]
        exact bonusUnder_nonneg rt text o.total_amount
      refine ⟨by omega, some text, htext, fun t ht => ?_⟩
      cases ht
      exact (depositPasses_iff (by omega)).mpr ⟨heq ▸ hbonus, by omega⟩

/-- **The opening raises `AppException`s only** exactly if it can be computed. -/
theorem refusesOnly_processPaidOrder_iff (ho : (s.db .orders).get? o.id = some o)
    (hopen : o.isOpen = true) (hlogs : LogsCommission s fresh) :
    RefusesOnly (OrderService.processPaidOrder rt fresh o.id cb settings) s Session.fresh ↔
      OpeningComputes rt settings s o := by
  have hst := Order.isOpen_iff.mp hopen
  cases hu : (s.db .users).get? o.user_id with
  | none =>
    obtain ⟨e, ss', hrun, happ, -⟩ := @run_unknownUser rt s settings fresh o cb
      ho hst hu
    exact iff_of_true ((refusesOnly_of_error hrun).mpr happ)
      ⟨fun user huser => by simp [hu] at huser, fun user plan huser => by simp [hu] at huser⟩
  | some user =>
  have honly : ∀ u, (s.db .users).get? o.user_id = some u → u = user := fun u huser =>
    Option.some.inj (huser.symm.trans hu)
  cases hd : OrderService.isDeposit o with
  | true =>
    rw [refusesOnly_openDepositOrder ho hst hu hd hlogs, ← depositComputes_iff]
    constructor
    · refine fun h => ⟨fun u huser _ => honly u huser ▸ h, fun u plan _ hplan => ?_⟩
      cases hd.symm.trans hplan
    · exact fun h => h.deposit user hu hd
  | false =>
    rw [refusesOnly_openPlanOrder ho hst hu hd hlogs]
    constructor
    · refine fun h => ⟨fun u _ hdeposit => ?_, fun u plan huser _ hplan =>
        honly u huser ▸ h plan hplan⟩
      cases hd.symm.trans hdeposit
    · exact fun h plan hplan => h.plan user plan hu hd hplan

end

/-! ## §3. The part after the driver. -/

/-- The order that a verified notification pays: it is stored and open, and was invoiced by the
    method at the amount. -/
structure Pays (s : State Tbl) (payment : Payment) (notify : EpayNotifyResult) (o : Order) :
    Prop where
  stored : o ∈ (s.db .orders).rows
  trade_no : textParam none notify.trade_no = .ok o.trade_no
  method : o.payment_id = some payment.id
  amount : notify.paid_amount = some (o.total_amount + o.handling_amount.getD 0)
  isOpen : o.isOpen = true

/-- What a verified notification brings to the database can be taken there, and the order that
    it pays can be opened. -/
structure Settleable (rt : Runtime) (s : State Tbl) (payment : Payment)
    (notify : EpayNotifyResult) : Prop where
  trade_no : ∃ t, PgText none notify.trade_no t
  opening : ∀ o, Pays s payment notify o → (∃ t, PgText (some 255) notify.callback_no t) ∧
    OpeningComputes rt .cached s o

/-- The UNIQUE constraint of `orders.trade_no`. -/
def UniqueTradeNo (s : State Tbl) : Prop :=
  ∀ a ∈ (s.db .orders).rows, ∀ b ∈ (s.db .orders).rows, a.trade_no = b.trade_no → a = b

/-- The order with a number, if there is one. -/
theorem run_orderByTradeNo (hunique : UniqueTradeNo s) (trade_no : String) :
    (∃ o ∈ (s.db .orders).rows, Order.trade_no o = trade_no ∧
      (OrderRepository.getByTradeNo trade_no).run s Session.fresh
        = (.ok (some o), Session.fresh)) ∨
    (∀ o ∈ (s.db .orders).rows, Order.trade_no o ≠ trade_no) ∧
      (OrderRepository.getByTradeNo trade_no).run s Session.fresh = (.ok none, Session.fresh) := by
  rcases @run_selectUnique s Session.fresh .orders
    (fun o : Order => o.trade_no = trade_no) (fun a ha b hb hano hbno =>
      hunique a ha b hb ((of_decide_eq_true hano).trans (of_decide_eq_true hbno).symm)) with
    ⟨o, ho, hno, hrun⟩ | ⟨hnone, hrun⟩
  · exact .inl ⟨o, ho, of_decide_eq_true hno, hrun⟩
  · exact .inr ⟨fun o ho hno => hnone o ho (decide_eq_true hno), hrun⟩

/-- The settlement of an open order: it is opened, and a refusal rolls back. -/
theorem run_settle {o : Order} {callback_no : PyJson} (ho : o ∈ (s.db .orders).rows)
    (hopen : o.isOpen = true) (hlogs : LogsCommission s fresh) :
    Answers ((Prog.tryCatch (do processNotified rt fresh o.id callback_no; return "success")
      (fun e => if e.isApp then do Prog.rollback; return "fail" else Prog.throw e)
        : Db String).run s Session.fresh) ↔
    (∃ t, PgText (some 255) callback_no t) ∧ OpeningComputes rt .cached s o := by
  rw [Prog.run_tryCatch, ← textParam_isOk_iff]
  have hget : (s.view Session.fresh .orders).get? o.id = some o := Table.get?_of_mem ho
  cases hnumber : textParam (some 255) callback_no with
  | error e =>
      -- the number is refused when the locked order is flushed
      have hnone : ¬∃ number, Except.error (α := String) e = .ok number := by
        rintro ⟨_, h⟩
        cases h
      rw [iff_false_right fun h => hnone h.1]
      have happ : e.isApp = false := by
        unfold textParam at hnumber
        split at hnumber
        · split at hnumber
          · cases hnumber; rfl
          · split at hnumber
            · cases hnumber; rfl
            · cases hnumber
        · cases hnumber; rfl
      have hrun : (processNotified rt fresh o.id callback_no).run s Session.fresh =
          (.error e, Session.fresh.lock [⟨Tbl.orders, o.id⟩]) := by
        unfold processNotified OrderRepository.getByIdForUpdate
        rw [hnumber]
        dsimp only
        rw [Prog.bind_eq, Prog.run_getForUpdate_found hget]
        dsimp only
        rw [if_neg]
        · rfl
        · rcases Order.isOpen_iff.mp hopen with h | h <;> omega
      rw [Prog.bind_eq, Prog.run_bind, hrun]
      dsimp only
      rw [happ]
      exact not_answers_error
  | ok number =>
      have hprocess : processNotified rt fresh o.id callback_no =
          OrderService.processPaidOrder rt fresh o.id (some number) .cached := by
        unfold processNotified
        rw [hnumber]
      rw [hprocess, Prog.bind_eq, Prog.run_bind,
        ← @refusesOnly_processPaidOrder_iff rt fresh s .cached o (some number) hget hopen hlogs]
      unfold RefusesOnly
      simp only [Except.ok.injEq, exists_eq', true_and]
      generalize (OrderService.processPaidOrder rt fresh o.id (some number) .cached).run s
        Session.fresh = outcome
      obtain ⟨e | _, ss⟩ := outcome
      · dsimp only
        by_cases happ : e.isApp = true
        · rw [if_pos happ]
          exact iff_of_true (Or.inr rfl) fun e' he' => by rw [← Except.error.inj he', happ]
        · rw [if_neg happ]
          exact iff_of_false not_answers_error fun h => happ (h e rfl)
      · refine iff_of_true (Or.inl rfl) fun e' he' => ?_
        cases he'

/-- **When the settlement answers**: it can take what the notification brings to the
    database. -/
theorem settleNotify_answers_iff {payment : Payment} {notify : EpayNotifyResult}
    (hunique : UniqueTradeNo s) (hlogs : LogsCommission s fresh) :
    Answers ((settleNotify rt fresh payment notify).run s Session.fresh) ↔
      Settleable rt s payment notify := by
  unfold settleNotify
  cases htrade : textParam none notify.trade_no with
  | error e =>
      refine iff_of_false not_answers_error fun h => ?_
      obtain ⟨t, ht⟩ := textParam_isOk_iff.mpr h.trade_no
      rw [htrade] at ht
      cases ht
  | ok trade_no =>
  have htext := textParam_isOk_iff.mp ⟨trade_no, htrade⟩
  have hpays : ∀ o, Pays s payment notify o → o.trade_no = trade_no := by
    intro o ho
    exact (Except.ok.inj (htrade.symm.trans ho.trade_no)).symm
  simp only [liftExcept, Prog.bind_eq, Prog.pure_eq, Prog.bind, Prog.run_bind]
  rcases run_orderByTradeNo hunique trade_no with ⟨o, ho, hno, hrun⟩ | ⟨hnone, hrun⟩
  swap
  · rw [hrun]
    exact iff_of_true (Or.inr rfl) ⟨htext, fun o ho =>
      absurd (hpays o ho) (hnone o ho.stored)⟩
  have honly : ∀ o', Pays s payment notify o' → o' = o := fun o' ho' =>
    hunique o' ho'.stored o ho ((hpays o' ho').trans hno.symm)
  -- an order that is not paid by the notification leaves nothing to check
  have hidle : ¬Pays s payment notify o → Settleable rt s payment notify :=
    fun hnot => ⟨htext, fun o' ho' => absurd (honly o' ho' ▸ ho') hnot⟩
  rw [hrun]
  dsimp only
  by_cases hmethod : o.payment_id = some payment.id
  swap
  · rw [if_pos hmethod]
    exact iff_of_true (Or.inr rfl) (hidle fun h => hmethod h.method)
  rw [if_neg (not_not.mpr hmethod)]
  by_cases hamount : notify.paid_amount = some (o.total_amount + o.handling_amount.getD 0)
  swap
  · rw [if_pos hamount]
    exact iff_of_true (Or.inr rfl) (hidle fun h => hamount h.amount)
  rw [if_neg (not_not.mpr hamount)]
  by_cases hopen : o.isOpen = true
  · have hstatus : ¬(o.status ≠ 0 ∧ o.status ≠ 1) := by
      rcases Order.isOpen_iff.mp hopen with h | h <;> omega
    have hpaid : Pays s payment notify o := ⟨ho, hno ▸ htrade, hmethod, hamount, hopen⟩
    rw [if_neg hstatus]
    refine (run_settle ho hopen hlogs).trans ?_
    constructor
    · exact fun h => ⟨htext, fun o' ho' => honly o' ho' ▸ h⟩
    · exact fun h => h.opening o hpaid
  · have hstatus : o.status ≠ 0 ∧ o.status ≠ 1 := by
      rw [Order.isOpen_iff] at hopen
      omega
    rw [if_pos hstatus]
    exact iff_of_true (Or.inl rfl) (hidle fun h => hopen h.isOpen)

/-! ## §4. The handler. -/

/-- What resolves the driver raises `AppException`s only. -/
theorem notifiedGateway_refuses {gateway : String} {payment : Payment} {e : PyExc}
    (h : OrderService.notifiedGateway rt gateway payment = .error e) : e.isApp = true := by
  have hname : ∀ name e', canonicalGatewayName rt name = .error e' → e'.isApp = true := by
    intro name e' he'
    unfold canonicalGatewayName getPaymentGateway at he'
    split at he'
    · cases he'
    · cases he'
      rfl
  unfold OrderService.notifiedGateway at h
  cases haddressed : canonicalGatewayName rt gateway with
  | error e' =>
      rw [haddressed] at h
      cases h
      exact hname _ _ haddressed
  | ok addressed =>
  cases hstored : canonicalGatewayName rt payment.payment with
  | error e' =>
      rw [haddressed, hstored] at h
      cases h
      exact hname _ _ hstored
  | ok stored =>
  rw [haddressed, hstored] at h
  dsimp only [bind, Except.bind] at h
  split at h
  · cases h
  cases hcreated : createPaymentGateway rt payment.payment payment.config with
  | ok driver =>
      rw [hcreated] at h
      cases h
  | error e' =>
      rw [hcreated] at h
      cases h
      unfold createPaymentGateway at hcreated
      cases hdriver : getPaymentGateway rt payment.payment with
      | error e' =>
          rw [hdriver] at hcreated
          cases hcreated
          exact hname payment.payment _ (by rw [canonicalGatewayName, hdriver]; rfl)
      | ok g =>
          rw [hdriver] at hcreated
          dsimp only [bind, Except.bind, PaymentGateway.validateConfig] at hcreated
          split at hcreated
          · next hconfig =>
            split at hconfig
            · cases hconfig
            · cases hconfig
              cases hcreated
              rfl
          · cases hcreated

/-- The posted object can be decoded, the driver and the database take what it holds, and what it
    pays can be opened. -/
structure Answerable (rt : Runtime) (libs : EpayLibs) (nesting : Nesting) (gateway : String)
    (s : State Tbl) (payment : Payment) (body : PyDict) : Prop where
  digits : PyJson.fieldsFit body.items = true
  depth : PyJson.fieldsDepth body.items + 1 ≤ nesting.loads
  signed : ∀ g config, OrderService.notifiedGateway rt gateway payment = .ok (some (g, config)) →
    ∀ item ∈ EPay.signParams (EPay.verifyParams body), item.2.depth ≤ nesting.str
  driver : ∀ g config, OrderService.notifiedGateway rt gateway payment = .ok (some (g, config)) →
    EPay.Verifiable libs (EPay.ofConfig config) body
  settlement : ∀ g config,
    OrderService.notifiedGateway rt gateway payment = .ok (some (g, config)) →
    EPay.Authentic libs (EPay.ofConfig config) body → ∀ cents,
    EPay.moneyToCents libs (body.getD (EPay.text "money") .null) = .ok cents →
    (EPay.resultOf body cents).success = true →
      Settleable rt s payment (EPay.resultOf body cents)

theorem Answerable.of_unresolved {gateway : String} {payment : Payment} {body : PyDict}
    (hdigits : PyJson.fieldsFit body.items = true)
    (hdepth : PyJson.fieldsDepth body.items + 1 ≤ nesting.loads)
    (h : ∀ g config, OrderService.notifiedGateway rt gateway payment ≠ .ok (some (g, config))) :
    Answerable rt libs nesting gateway s payment body :=
  ⟨hdigits, hdepth, fun g config hg => absurd hg (h g config),
    fun g config hg => absurd hg (h g config), fun g config hg => absurd hg (h g config)⟩

/-- **When the handler answers** a post to the endpoint of an enabled method. -/
theorem paymentNotify_answers_iff (hascii : EPay.AsciiDigests libs) (hunique : UniqueTradeNo s)
    (hlogs : LogsCommission s fresh) {gateway uuid : String} {payment : Payment} {body : PyDict}
    (hmethod : (s.db .payment).rows.filter (fun p : Payment => decide (p.uuid = uuid)) = [payment])
    (henable : payment.enable = true) :
    Answers ((paymentNotify rt libs nesting fresh gateway uuid body).run s Session.fresh) ↔
      Answerable rt libs nesting gateway s payment body := by
  unfold paymentNotify requestJson
  by_cases hdigits : PyJson.fieldsFit body.items = true
  case neg =>
    rw [if_pos (by simp [hdigits])]
    exact iff_of_false not_answers_error fun h => hdigits h.digits
  rw [if_neg (by simp [hdigits])]
  by_cases hdepth : PyJson.fieldsDepth body.items + 1 ≤ nesting.loads
  case neg =>
    rw [if_pos (by omega)]
    exact iff_of_false not_answers_error fun h => hdepth h.depth
  rw [if_neg (by omega)]
  have hview : (s.view Session.fresh .payment).rows.filter
      (fun p : Payment => decide (p.uuid = uuid)) = [payment] := hmethod
  unfold handlePaymentNotify PaymentRepository.getByUuid
  simp only [liftExcept, Prog.bind_eq, Prog.pure_eq, Prog.bind, Prog.bind_assoc,
    Prog.run_select_bind]
  rw [hview]
  dsimp only [scalarOneOrNone, Prog.pure_eq, Prog.bind]
  rw [if_neg (by simp [henable])]
  cases hgateway : OrderService.notifiedGateway rt gateway payment with
  | error e =>
      dsimp only
      rw [if_pos (notifiedGateway_refuses hgateway)]
      exact iff_of_true (Or.inr rfl) (.of_unresolved hdigits hdepth (by simp [hgateway]))
  | ok driver =>
  cases driver with
  | none => exact iff_of_true (Or.inr rfl) (.of_unresolved hdigits hdepth (by simp [hgateway]))
  | some driver =>
  obtain ⟨g, config⟩ := driver
  dsimp only
  have hresolved : ∀ {g' config'}, OrderService.notifiedGateway rt gateway payment =
      .ok (some (g', config')) → config' = config := by
    intro g' config' h
    rw [hgateway] at h
    cases h
    rfl
  unfold verifyNotify
  by_cases hsigned : ∀ item ∈ EPay.signParams (EPay.verifyParams body), item.2.depth ≤ nesting.str
  case neg =>
    rw [if_pos (by simpa using hsigned)]
    exact iff_of_false not_answers_error fun h => hsigned (h.signed g config hgateway)
  rw [if_neg (by simpa using hsigned)]
  cases hverified : EPay.verifyNotify libs (EPay.ofConfig config) body with
  | error e =>
      refine iff_of_false not_answers_error fun h => ?_
      obtain ⟨notify, hnotify⟩ :=
        (EPay.verifyNotify_isOk_iff hascii).mpr (h.driver g config hgateway)
      rw [hverified] at hnotify
      cases hnotify
  | ok notify =>
      have hverifiable := (EPay.verifyNotify_isOk_iff hascii).mp ⟨notify, hverified⟩
      obtain ⟨hgenuine, hforged⟩ :=
        EPay.verifyNotify_eq hascii hverifiable.key hverifiable.signed hverifiable.sign
      have hdriver : ∀ g' config', OrderService.notifiedGateway rt gateway payment =
          .ok (some (g', config')) → EPay.Verifiable libs (EPay.ofConfig config') body :=
        fun g' config' h => hresolved h ▸ hverifiable
      -- an authentic notification is answered by its own result
      have hresult : EPay.Authentic libs (EPay.ofConfig config) body → ∀ cents,
          EPay.moneyToCents libs (body.getD (EPay.text "money") .null) = .ok cents →
            notify = EPay.resultOf body cents := by
        intro hauthentic cents hcents
        rw [hgenuine hauthentic, hcents] at hverified
        exact (Except.ok.inj hverified).symm
      dsimp only [Prog.bind]
      by_cases hsuccess : notify.success = true
      · rw [if_neg (by simp [hsuccess])]
        have hauthentic : EPay.Authentic libs (EPay.ofConfig config) body := by
          by_contra hnot
          rw [hforged hnot] at hverified
          rw [← Except.ok.inj hverified] at hsuccess
          cases hsuccess
        obtain ⟨cents, hcents⟩ := EPay.moneyToCents_isOk_iff.mpr (hverifiable.money hauthentic)
        have hnotify := hresult hauthentic cents hcents
        refine (settleNotify_answers_iff hunique hlogs).trans
          ⟨fun h => ⟨hdigits, hdepth, fun _ _ _ => hsigned, hdriver, ?_⟩, fun h => ?_⟩
        · intro g' config' hg' hauthentic' cents' hcents' _
          rw [hresolved hg'] at hauthentic'
          exact hresult hauthentic' cents' hcents' ▸ h
        · rw [hnotify] at hsuccess ⊢
          exact h.settlement g config hgateway hauthentic cents hcents hsuccess
      · rw [if_pos (by simp [hsuccess])]
        refine iff_of_true (Or.inr rfl) ⟨hdigits, hdepth, fun _ _ _ => hsigned, hdriver, ?_⟩
        intro g' config' hg' hauthentic cents hcents hpaid
        rw [hresolved hg'] at hauthentic
        rw [← hresult hauthentic cents hcents] at hpaid
        exact absurd hpaid hsuccess

/-! A deposit of 10.00, and what is posted to the method it was invoiced by. -/

/-- The registered driver. -/
def epayDriver : PaymentGateway where
  gateway := "EPay"
  aliases := ["epay"]
  required_config := ["url", "pid", "key"]
  pay _ _ := .ok .null
  verify_notify _ _ := .ok { success := false }

def endpoint : Runtime := Utc.runtime (fun _ => none) (fun _ _ => none) [epayDriver]

def epayMethod : Payment :=
  { id := 1, uuid := "u1", payment := "EPay", enable := true
    config := [("url", .str "https://pay.example.com"), ("pid", .str "123"), ("key", .str "test")] }

def awaiting : State Tbl :=
  ⟨Database.empty.apply [
    .put Tbl.users ({ id := 1, email := "a@example.com", password := "", token := "",
                      uuid := "" } : User),
    .put Tbl.orders ({ id := 1, user_id := 1, plan_id := 0, type := 9, period := "deposit",
                       trade_no := "T1", total_amount := 1000, payment_id := some 1, status := 0,
                       created_at := 0 } : Order),
    .put Tbl.payment epayMethod], 1700000000⟩

/-- The digests of the key alone and of the paid notification. -/
def callbackLibs : EpayLibs where
  md5_hexdigest bytes :=
    if bytes.length = 4 then EPay.text "098f6bcd4621d373cade4e832627b4f6"
    else EPay.text "94f9a057910d2dc2c77873af7ad4c1c9"
  repr _ := []
  decimal_of_str t := if t = EPay.text "10" then some (.finite 10 0) else none

/-- A posted object, by its names and values. -/
def posted (items : List (String × PyJson))
    (nodup : ((items.map fun item => (EPay.text item.1, item.2)).map Prod.fst).Nodup) : PyDict :=
  ⟨items.map fun item => (EPay.text item.1, item.2), nodup⟩

def paidBody : PyDict := posted
  [("money", .str (EPay.text "10")), ("out_trade_no", .str (EPay.text "T1")),
    ("pid", .str (EPay.text "123")), ("trade_no", .str (EPay.text "G1")),
    ("trade_status", .str (EPay.text "TRADE_SUCCESS")),
    ("sign", .str (EPay.text "94f9a057910d2dc2c77873af7ad4c1c9"))]
  (by decide)

theorem callbackLibs_ascii : EPay.AsciiDigests callbackLibs := by
  intro data
  unfold callbackLibs
  dsimp only
  split
  · decide
  · decide

theorem awaiting_unique : UniqueTradeNo awaiting := by
  intro a ha b hb _
  exact (List.mem_singleton.mp ha).trans (List.mem_singleton.mp hb).symm

theorem awaiting_logs : LogsCommission awaiting ⟨0, 0, ""⟩ := by
  refine ⟨?_, rfl⟩
  intro a ha
  cases ha

/-- A recursion limit of a thousand calls, some of which are taken before the body is decoded. -/
def callbackNesting : Nesting := ⟨990, 990⟩

/-- The payment of the deposit is answered. -/
theorem paymentNotify_answers_paid :
    Answerable endpoint callbackLibs callbackNesting "epay" awaiting epayMethod paidBody :=
  (@paymentNotify_answers_iff endpoint callbackLibs callbackNesting ⟨0, 0, ""⟩ awaiting
    callbackLibs_ascii awaiting_unique awaiting_logs "epay" "u1" epayMethod paidBody rfl rfl).mp (by
      unfold Answers
      decide +kernel)

/-- An array of so many arrays inside each other. -/
def nestedArrays : Nat → PyJson
  | 0 => .arr []
  | n + 1 => .arr [nestedArrays n]

/-- The order is a reset packet instead, and the inviter of its user has the largest balance of
    commission that the column holds. -/
def inviterFull : State Tbl where
  now := 1700000000
  db := awaiting.db.apply [
    .put Tbl.users ({ id := 1, email := "a@example.com", password := "", token := "", uuid := "",
                      invite_user_id := some 2, plan_id := some 1, expired_at := none } : User),
    .put Tbl.users ({ id := 2, email := "b@example.com", password := "", token := "b", uuid := "b",
                      commission_balance := OrderService.INTEGER_MAX } : User),
    .put Tbl.plan ({ id := 1, group_id := 1, transfer_enable := 1, name := "" } : Plan),
    .put Tbl.orders ({ id := 1, user_id := 1, plan_id := 1, type := 4, period := "reset_price",
                       trade_no := "T1", total_amount := 1000, payment_id := some 1, status := 0,
                       created_at := 0 } : Order)]

/-- A signature with a character outside ASCII, a name with a surrogate, a number that is
    no text and arrays inside each other each raise, and so does the payment of an order whose
    commission the balance of the inviter has no room for. -/
theorem posts_without_answer :
    ((paymentNotify endpoint callbackLibs callbackNesting ⟨0, 0, ""⟩ "epay" "u1"
      (posted [("sign", .str [0xE9])] (by decide))).run awaiting Session.fresh).1 =
        .error (.other "TypeError") ∧
    ((paymentNotify endpoint callbackLibs callbackNesting ⟨0, 0, ""⟩ "epay" "u1"
      (posted [("name", .str [0xD800])] (by decide))).run awaiting Session.fresh).1 =
        .error (.value "surrogates not allowed") ∧
    ((paymentNotify endpoint callbackLibs callbackNesting ⟨0, 0, ""⟩ "epay" "u1"
      (posted [("sign", .int 1)] (by decide))).run awaiting Session.fresh).1 =
        .error (.other "TypeError") ∧
    ((paymentNotify endpoint callbackLibs callbackNesting ⟨0, 0, ""⟩ "epay" "u1"
      (posted [("name", nestedArrays 1000)] (by decide))).run awaiting Session.fresh).1 =
        .error (.other "RecursionError") ∧
    ((paymentNotify endpoint callbackLibs callbackNesting ⟨0, 0, ""⟩ "epay" "u1"
      paidBody).run inviterFull Session.fresh).1 = .error (.other "DBAPIError") := by
  decide +kernel

end PyBoard.PaymentController
