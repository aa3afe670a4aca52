/-
  PyBoard.Results.Actions — which actions of the admin pages are atomic.

  A page that shows an error is answered like any other page, and its transaction is
  committed.  Most actions check first and write then.  Marking an order as paid stores the
  order as accepted before it opens it, and a generation stores one account before it checks
  the next address.

  Main result: `action_atomic_iff`, exact for every action of the pages of orders and users.
-/
import PyBoard.Results.AdminDates
import PyBoard.Results.Callbacks
import PyBoard.Results.Fulfilment
import PyBoard.Specs.Pages

namespace PyBoard.AdminUi

open Relational PaymentController UserService

variable {rt : Runtime} {settings : SettingSource} {s : State Tbl} {request : Request}

/-- An action of the pages of orders and users. -/
inductive PageAction
  | markOrderPaid (fresh : Fresh) (trade_no : String)
  | cancelOrder (trade_no : String)
  | assignOrder (fresh : Fresh)
  | users (query : Form) (op : PageOp)

/-- **The transaction of an action.** -/
def PageAction.prog (rt : Runtime) (settings : SettingSource) (request : Request) :
    PageAction → Db Page
  | .markOrderPaid fresh trade_no => markOrderPaidAction rt fresh trade_no request settings
  | .cancelOrder trade_no => cancelOrderAction rt trade_no request
  | .assignOrder fresh => assignOrderAction rt fresh request
  | .users query op => op.handler rt query request

/-! ## §1. Actions that check first. -/

theorem cancelOrderAction_atomic (trade_no : String) :
    Atomic (cancelOrderAction rt trade_no request) s := by
  refine atomic_orActionError (fun _ => neverShows_ordersTableResponse) fun _ => ?_
  refine checksFirst_bind (.bind (quiet_select _).reads fun _ => (quiet_scalarOneOrNone _).reads)
    fun found => ?_
  cases found with
  | none => exact checksFirst_throw
  | some order =>
    dsimp only
    split
    · exact checksFirst_throw
    · exact checksFirst_of_raises (neverRefuses_save _ _ _)

theorem checksFirst_adminAssignOrder (fresh : Fresh) (data : OrderService.AdminOrderAssign) :
    ChecksFirst PyExc.isAnswered (OrderService.adminAssignOrder fresh data) := by
  refine checksFirst_bind quiet_time.reads fun created_at => checksFirst_bind
    (.bind (quiet_select _).reads fun _ => (quiet_scalarOneOrNone _).reads) fun user => ?_
  cases user with
  | none => exact checksFirst_throw
  | some user =>
    refine checksFirst_bind (quiet_get _).reads fun plan => ?_
    cases plan with
    | none => exact checksFirst_throw
    | some plan =>
      refine checksFirst_bind (.bind (quiet_select _).reads fun _ => trivial) fun pending => ?_
      split
      · exact checksFirst_throw
      · exact checksFirst_bind quiet_time.reads fun now =>
          checksFirst_of_raises (.bind (unanswered_create _ _) fun _ => trivial)

theorem assignOrderAction_atomic (fresh : Fresh) :
    Atomic (assignOrderAction rt fresh request) s :=
  atomic_orFormError (fun _ => neverShows_ordersTableResponse) fun _ =>
    checksFirst_bind (reads_liftExcept _) fun data => (checksFirst_adminAssignOrder fresh data).void

theorem reads_emailExists (email : String) : Reads (UserRepository.emailExists email) :=
  .bind (.bind (quiet_select _).reads fun _ => (quiet_scalarOneOrNone _).reads) fun _ => trivial

theorem checksFirst_createUser (drawn : NewAccount) (bytes : BitVec (8 * 18))
    (data : AuthService.UserCreate) :
    ChecksFirst PyExc.isAnswered (UserService.createUser drawn bytes data) := by
  refine checksFirst_bind (reads_emailExists _) fun taken => ?_
  cases taken with
  | true => exact checksFirst_throw
  | false => exact checksFirst_of_raises (.bind (unanswered_createUserRow _) fun _ => trivial)

theorem checksFirst_updateUser (hash_password : String → String) (user_id : Int)
    (data : UserUpdate) :
    ChecksFirst PyExc.isAnswered (UserService.updateUser hash_password user_id data) := by
  refine checksFirst_bind (quiet_get _).reads fun found => ?_
  cases found with
  | none => exact checksFirst_throw
  | some user =>
    refine checksFirst_bind (reads_ensureEmailAvailable user data.email) fun _ =>
      checksFirst_bind (reads_liftExcept _) fun user' => checksFirst_of_raises ?_
    refine .bind (raises_whenever (unanswered_save _ _ _)) fun _ => raises_stmt fun obj => ?_
    cases obj
    · rfl
    · trivial

theorem createUserAction_atomic (query : Form) (drawn : NewAccount) (bytes : BitVec (8 * 18)) :
    Atomic (createUserAction rt query request drawn bytes) s :=
  atomic_orFormError (fun form => neverShows_usersTableResponse query form) fun _ =>
    checksFirst_bind (reads_liftExcept _) fun data =>
      (checksFirst_createUser drawn bytes data).void

theorem updateUserAction_atomic (query : Form) (hash_password : String → String) (user_id : Int) :
    Atomic (updateUserAction rt query request hash_password user_id) s :=
  atomic_orFormError (fun form => neverShows_usersTableResponse query form) fun _ =>
    checksFirst_bind (reads_liftExcept _) fun data =>
      (checksFirst_updateUser hash_password user_id data).void

/-- Nothing stops the removal of what belongs to a user. -/
theorem total_deleteUserRelatedData (user_id : Int) :
    (UserService.deleteUserRelatedData user_id).Total := by
  refine Prog.All.bind (Prog.Total.ofStmt _) fun tickets => Prog.All.bind ?_ fun _ => ?_
  · unfold whenever
    split
    · exact Prog.All.bind (Prog.Total.deleteReturning _ _) fun _ => trivial
    · trivial
  · exact Prog.All.bind (Prog.Total.deleteReturning _ _) fun _ =>
      Prog.All.bind (Prog.Total.deleteReturning _ _) fun _ =>
      Prog.All.bind (Prog.Total.deleteReturning _ _) fun _ =>
      Prog.All.bind (Prog.Total.updateReturning _ _ _) fun _ => trivial

theorem checksFirst_deleteUser (user_id : Int) :
    ChecksFirst PyExc.isApp (UserService.deleteUser user_id) := by
  refine checksFirst_bind (.bind (quiet_get _).reads fun found => ?_) fun user =>
    checksFirst_of_raises (.bind (neverRefuses_total (total_deleteUserRelatedData user_id))
      fun _ => raises_stmt fun _ => trivial)
  cases found <;> trivial

theorem deleteUserAction_atomic (query : Form) (user_id : Int) :
    Atomic (deleteUserAction rt query request user_id) s :=
  atomic_orActionError (fun form => neverShows_usersTableResponse query form) fun _ =>
    checksFirst_deleteUser user_id

theorem banUserAction_atomic (query : Form) (user_id : Int) :
    Atomic (banUserAction rt query request user_id) s :=
  atomic_of_neverShows fun form => neverShows_bind fun _ => neverShows_usersTableResponse query form

theorem resetUserSecurityAction_atomic (query : Form) (user_id : Int) (uuid token : String) :
    Atomic (resetUserSecurityAction rt query request user_id uuid token) s :=
  atomic_of_neverShows fun form => neverShows_bind fun _ => neverShows_usersTableResponse query form

/-! ## §2. Marking an order as paid. -/

/-- **A press that finds a pending order whose opening is refused** leaves the order accepted. -/
theorem markOrderPaidAction_atomic_iff (hunique : UniqueTradeNo s) (fresh : Fresh)
    (trade_no : String) :
    Atomic (markOrderPaidAction rt fresh trade_no request settings) s ↔
      ¬((∃ form, Granted rt s request form) ∧ ∃ o ∈ (s.db .orders).rows,
        Order.trade_no o = trade_no ∧ Order.status o = 0 ∧ OpeningRefused rt s o) := by
  unfold markOrderPaidAction
  rw [atomic_action_iff]
  simp only [orActionError_shows neverShows_ordersTableResponse]
  unfold OrderService.adminMarkPaid
  simp only [Prog.bind_eq, Prog.run_bind]
  rcases run_orderByTradeNo hunique trade_no with ⟨o, ho, hno, hrun⟩ | ⟨hnone, hrun⟩
  swap
  · rw [hrun]
    refine iff_of_true ?_ fun ⟨_, o, ho, hno, _⟩ => hnone o ho hno
    rintro form - ss' ⟨e, ⟨⟩, -⟩
    rfl
  have honly : ∀ o' ∈ (s.db .orders).rows, Order.trade_no o' = trade_no → o' = o :=
    fun o' ho' hno' => hunique o' ho' o ho (hno'.trans hno.symm)
  rw [hrun]
  dsimp only
  by_cases hstatus : o.status = 0
  swap
  · rw [if_pos hstatus]
    refine iff_of_true ?_ fun ⟨_, o', ho', hno', hst, _⟩ => hstatus (honly o' ho' hno' ▸ hst)
    rintro form - ss' ⟨e, ⟨⟩, -⟩
    rfl
  rw [if_neg (not_not.mpr hstatus)]
  have hstored : (s.db .orders).get? o.id = some o := Table.get?_of_mem ho
  obtain ⟨r, ss₁, hrun₁, hrefused, hview⟩ := @run_processPaidOrder_refused rt s settings
    fresh o (some "manual_operation") hstored (.inl hstatus)
  rw [hrun₁]
  constructor
  · rintro h ⟨⟨form, hgranted⟩, o', ho', hno', -, hopening⟩
    rw [honly o' ho' hno'] at hopening
    obtain ⟨e, he, happ⟩ := hrefused.mpr hopening
    have hkept := hview e he happ
    -- the order is stored at status 1 now
    rw [h form hgranted ss₁ ⟨e, by rw [he], happ⟩] at hkept
    have hlast : (s.db .orders).get? o.id
        = some (OrderService.accepted o (some "manual_operation")) := by
      rw [hkept]
      exact Table.get?_put_self _ (OrderService.accepted o (some "manual_operation"))
    have hsame := Option.some.inj (hstored.symm.trans hlast)
    have hone : o.status = 1 := congrArg Order.status hsame
    omega
  · rintro hno' form hgranted ss' ⟨e, he, happ⟩
    refine absurd ⟨⟨form, hgranted⟩, o, ho, hno, hstatus, ?_⟩ hno'
    exact hrefused.mp ⟨e, congrArg Prod.fst he, happ⟩

/-! ## §3. Generating users. -/

/-- The UNIQUE constraint of `users.email`. -/
def UniqueEmail (s : State Tbl) : Prop :=
  ∀ a ∈ (s.db .users).rows, ∀ b ∈ (s.db .users).rows, User.email a = User.email b → a = b

/-- **A form whose generation meets a taken address after the first one** leaves the accounts
    before it. -/
theorem generateUsersAction_atomic_iff (hemails : UniqueEmail s) (query : Form)
    (draws : Nat → Generated) :
    Atomic (generateUsersAction rt query request draws) s ↔
      ¬∃ form data plan j, Granted rt s request form ∧ userGenerateFromForm rt form = .ok data ∧
        Begins s data plan ∧ 0 < j ∧ j < data.count.toNat ∧
          StopsAt s (data.nth rt data.count plan draws) 0 j := by
  unfold generateUsersAction
  rw [atomic_action_iff]
  simp only [orFormError_shows (neverShows_usersTableResponse query _)]
  simp only [run_parsed_error]
  constructor
  · rintro h ⟨form, data, plan, j, hgranted, hparsed, hbegins, hpos, hlt, hstops⟩
    rcases @run_adminGenerateUsers rt s draws data hemails with
      ⟨plan', j', e, ss', hbegins', -, hstops', hrun, hanswered, hholds, -⟩ | ⟨hnone, -⟩
    swap
    · exact hnone plan j hbegins hlt hstops
    obtain rfl := hbegins.only hbegins'
    obtain rfl := hstops.unique hstops' (Nat.zero_le _) (Nat.zero_le _)
    have hkept := h form hgranted ss' ⟨e, .inr ⟨data, hparsed, hrun⟩, hanswered⟩
    -- the first account is stored now, and was not before
    have hfirst := (hholds _).mpr (.inr ⟨0, hpos, rfl⟩)
    rw [hkept] at hfirst
    exact ((hstops.stored 0 (Nat.zero_le _) hpos).free _ (.inl hfirst)).1 rfl
  · rintro hno form hgranted ss' ⟨e, ⟨-, rfl⟩ | ⟨data, hparsed, hrun⟩, hanswered⟩
    · rfl
    suffices hsession : ss' = Session.fresh by
      rw [hsession]
      rfl
    rcases @run_adminGenerateUsers rt s draws data hemails with
      ⟨plan, j, e', ss'', hbegins, hlt, hstops, hrun', -, -, hzero⟩ | ⟨-, hfresh⟩
    · rw [hrun'] at hrun
      obtain rfl : ss'' = ss' := congrArg Prod.snd hrun
      refine hzero (Nat.eq_zero_of_not_pos fun hpos => hno ?_)
      exact ⟨form, data, plan, j, hgranted, hparsed, hbegins, hpos, hlt, hstops⟩
    · exact hfresh e ss' hrun hanswered

/-! ## §4. Every action. -/

/-- **The action stops halfway**: the press meets a pending order whose opening is refused, or the
    generation an address that is taken after the first account is stored. -/
def PageAction.StopsHalfway (rt : Runtime) (s : State Tbl) (request : Request) :
    PageAction → Prop
  | .markOrderPaid _ trade_no =>
      (∃ form, Granted rt s request form) ∧ ∃ o ∈ (s.db .orders).rows,
        Order.trade_no o = trade_no ∧ Order.status o = 0 ∧ OpeningRefused rt s o
  | .users _ (.generateUsers draws) =>
      ∃ form data plan j, Granted rt s request form ∧ userGenerateFromForm rt form = .ok data ∧
        Begins s data plan ∧ 0 < j ∧ j < data.count.toNat ∧
          StopsAt s (data.nth rt data.count plan draws) 0 j
  | _ => False

/-- **An action is atomic** exactly if it does not stop halfway. -/
theorem action_atomic_iff (hnumbers : UniqueTradeNo s) (hemails : UniqueEmail s)
    (request : Request) (act : PageAction) :
    Atomic (act.prog rt settings request) s ↔ ¬act.StopsHalfway rt s request := by
  cases act with
  | markOrderPaid fresh trade_no => exact markOrderPaidAction_atomic_iff hnumbers fresh trade_no
  | cancelOrder trade_no => exact iff_of_true (cancelOrderAction_atomic trade_no) id
  | assignOrder fresh => exact iff_of_true (assignOrderAction_atomic fresh) id
  | users query op =>
    cases op with
    | generateUsers draws => exact generateUsersAction_atomic_iff hemails query draws
    | createUser drawn bytes => exact iff_of_true (createUserAction_atomic query drawn bytes) id
    | updateUser hash_password user_id =>
      exact iff_of_true (updateUserAction_atomic query hash_password user_id) id
    | banUser user_id => exact iff_of_true (banUserAction_atomic query user_id) id
    | resetUserSecurity user_id uuid token =>
      exact iff_of_true (resetUserSecurityAction_atomic query user_id uuid token) id
    | deleteUser user_id => exact iff_of_true (deleteUserAction_atomic query user_id) id

/-! An order whose user has too little balance by now, and a batch of two addresses of which the
second exists. -/

def unaffordable : State Tbl := ⟨couponed 0, 1700000000⟩

def pressPaid : Db Page :=
  (PageAction.markOrderPaid ⟨0, 0, ""⟩ "A").prog adminSession .cached pressMarkPaid

/-- The order, and what is left of its coupon. -/
def pressedOrder (s : State Tbl) : Option (Int × Option String) × Option Int :=
  (((s.db .orders).get? (1 : Int)).map fun o : Order => (o.status, o.callback_no), usesLeft s.db)

def crowded : State Tbl where
  now := 1700000000
  db
    | .users => ⟨[{ id := 1, email := "u2@example.com", password := "", token := "a", uuid := "a" },
                  { id := 2, email := "b", password := "", token := "b", uuid := "b",
                    is_admin := true }], by change ([1, 2] : List Int).Nodup; decide⟩
    | _ => Table.empty

/-- The form asks for so many accounts. -/
def pressGenerate (name generate_count : String) : Db Page :=
  (PageAction.users [] (.generateUsers fun i =>
    { id := 10 + i, hash_password := fun _ => "hash", token := i, uuid := 0,
      prefix_drawn := "" })).prog adminSession .cached
    { token := some "token", csrf_cookie := some "csrf", csrf_header := some "csrf",
      form := some [("email_prefix", name), ("email_suffix", "example.com"),
        ("generate_count", generate_count)] }

def addresses (s : State Tbl) : List String := (s.db .users).rows.map User.email

theorem unaffordable_refused : OpeningRefused adminSession unaffordable couponedOrder := by
  obtain ⟨r, ss', hrun, hrefused, -⟩ := @run_processPaidOrder_refused adminSession unaffordable
    .cached ⟨0, 0, ""⟩ couponedOrder (some "manual_operation") rfl (.inl rfl)
  refine hrefused.mp ⟨shortBalance, (congrArg Prod.fst hrun).symm.trans ?_, rfl⟩
  rfl

/-- The press leaves the order accepted; a single address that exists leaves nothing. -/
theorem action_atomic_iff_press :
    ¬Atomic pressPaid unaffordable ∧ Atomic (pressGenerate "u2" "1") crowded := by
  constructor
  · intro hatomic
    refine (action_atomic_iff ?_ ?_ _ _).mp hatomic ⟨⟨[], ?_⟩, couponedOrder, ?_⟩
    · exact fun a ha b hb => List.inj_on_of_nodup_map (by decide) ha hb
    · exact fun a ha b hb => List.inj_on_of_nodup_map (by decide) ha hb
    · exact ⟨⟨"token", { id := 2, email := "b", password := "", token := "b", uuid := "b",
                         is_admin := true }, rfl, by decide, rfl, rfl, rfl, rfl⟩, rfl, rfl⟩
    · exact ⟨List.mem_singleton_self _, rfl, rfl, unaffordable_refused⟩
  · refine (action_atomic_iff ?_ ?_ _ _).mpr ?_
    · exact fun a ha b hb => List.inj_on_of_nodup_map (by decide) ha hb
    · exact fun a ha b hb => List.inj_on_of_nodup_map (by decide) ha hb
    · rintro ⟨form, data, plan, j, hgranted, hparsed, -, hpos, hlt, -⟩
      obtain rfl := Option.some.inj hgranted.submitted
      have hone : data.count = 1 := by
        cases hparsed
        rfl
      rw [hone] at hlt
      omega

/-- **The pages of two errors leave something behind**: the order is stored as accepted and its
    coupon is taken, and the first account of the batch is stored. -/
theorem errors_leave_half :
    (¬Atomic pressPaid unaffordable ∧
      (pressPaid.run unaffordable Session.fresh).1 = .ok (.action_error "用户余额不足") ∧
      pressedOrder unaffordable = (some (0, none), some 5) ∧
      pressedOrder (pressPaid.serve unaffordable) = (some (1, some "manual_operation"), some 4)) ∧
    (¬Atomic (pressGenerate "u" "2") crowded ∧
      ((pressGenerate "u" "2").run crowded Session.fresh).1
        = .ok (.action_error "邮箱 u2@example.com 已存在") ∧
      addresses crowded = ["u2@example.com", "b"] ∧
      addresses ((pressGenerate "u" "2").serve crowded)
        = ["u2@example.com", "b", "u1@example.com"]) := by
  refine ⟨⟨fun h => ?_, rfl, rfl, rfl⟩, fun h => ?_, rfl, rfl, rfl⟩
  · have hkept := congrArg (fun db : Database => usesLeft db) (h "用户余额不足" rfl)
    cases hkept
  · have hkept := congrArg (fun db : Database => (db .users).rows.length)
      (h "邮箱 u2@example.com 已存在" rfl)
    cases hkept

end PyBoard.AdminUi
