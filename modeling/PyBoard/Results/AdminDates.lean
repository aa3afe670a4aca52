/-
  PyBoard.Results.AdminDates — the dates in the edit forms of the admin pages.

  A form shows a date to the minute and reads it back: on a server in the UTC zone a date
  comes back without its seconds (`datetimeOrNone_datetimeInputValue`).  So an edit form that
  is submitted as it is shown keeps the dates of its row if they are whole minutes, and no
  others (`admin_dates_kept_iff`).
-/
import PyBoard.AdminUi.Forms
import PyBoard.Specs.Instant

namespace PyBoard.AdminUi

open Relational UserService CouponService GiftcardService

variable {rt : Runtime} {s : State Tbl} {ss ss' : Session Tbl}

/-! ## §1. One date. -/

/-- A character that is printed and is no space. -/
def isGraphic (c : Char) : Bool := 33 ≤ c.toNat && c.toNat ≤ 126

/-- A server in the UTC zone. -/
structure UtcServer (rt : Runtime) : Prop extends InUtc rt where
  fromisoformat : ∃ other, rt.fromisoformat = Utc.fromisoformat other
  /-- `str.strip` removes whitespace only. -/
  strip : ∀ text : String, text.toList.all isGraphic = true → rt.strip text = text
  /-- A hyphen is no digit. -/
  isdigit : ∀ text : String, '-' ∈ text.toList → rt.isdigit text = false

/-- A timestamp that `datetime` has. -/
def InRange (rt : Runtime) (ts : Int) : Prop := 0 < ts ∧ (rt.fromtimestamp ts).isSome

theorem isGraphic_digitChar : ∀ d < 10, isGraphic (Nat.digitChar d) = true := by
  intro d hd
  interval_cases d <;> decide

theorem graphic_strftimeMinute (dt : LocalTime) :
    (strftimeMinute dt).toList.all isGraphic = true := by
  have hdigits : ∀ k n, (padded 10 k n).all isGraphic = true := fun k n =>
    List.all_eq_true.mpr (padded_all (by decide) isGraphic_digitChar k n)
  have hmarks : isGraphic '-' = true ∧ isGraphic 'T' = true ∧ isGraphic ':' = true := by decide
  unfold strftimeMinute
  rw [String.toList_ofList]
  simp only [List.all_append, List.all_cons, hdigits, hmarks.1, hmarks.2.1, hmarks.2.2,
    Bool.and_self]

theorem hyphen_mem_strftimeMinute (dt : LocalTime) : '-' ∈ (strftimeMinute dt).toList := by
  unfold strftimeMinute
  rw [String.toList_ofList]
  exact List.mem_append_right _ List.mem_cons_self

/-- **A date comes back without its seconds.** -/
theorem datetimeOrNone_datetimeInputValue (h : UtcServer rt) {ts : Int} (hts : InRange rt ts) :
    ∃ text, datetimeInputValue rt (.int ts) = .ok text ∧ rt.strip text ≠ "" ∧
      datetimeOrNone rt (some text) = .ok (some (ts - ts % 60)) := by
  obtain ⟨hpos, hsome⟩ := hts
  obtain ⟨dt, hdt⟩ := Option.isSome_iff_exists.mp hsome
  have hshown : datetimeInputValue rt (.int ts) = .ok (strftimeMinute dt) := by
    show (if ts ≤ 0 then _ else _) = _
    rw [if_neg (by omega), hdt]
    rfl
  have hstrip := h.strip _ (graphic_strftimeMinute dt)
  have hne : strftimeMinute dt ≠ "" := by
    intro hempty
    have hmem := hyphen_mem_strftimeMinute dt
    rw [hempty] at hmem
    cases hmem
  refine ⟨_, hshown, by rwa [hstrip], ?_⟩
  obtain ⟨other, hiso⟩ := h.fromisoformat
  rw [h.fromtimestamp] at hdt
  obtain ⟨hvalid, hcivil, hyear⟩ := Utc.fromtimestamp_eq_some.mp hdt
  have hminute : LocalTime.civil { dt with second := dt.second - dt.second % 60 } =
      ts - ts % 60 := by
    unfold LocalTime.civil at hcivil ⊢
    dsimp only
    omega
  unfold datetimeOrNone
  dsimp only [orEmpty, Option.getD_some]
  rw [hstrip, if_neg hne, h.isdigit _ (hyphen_mem_strftimeMinute dt), hiso]
  unfold Utc.fromisoformat
  rw [Utc.isoTime_strftimeMinute hvalid hyear]
  dsimp only [Except.map]
  rw [hminute]
  rfl

/-! ## §2. Updates that return. -/

/-- An update that returns answers the new version of its row. -/
theorem run_updateRow {t : Tbl} [DecidableEq t.Row] {old new row : t.Row}
    (h : (updateRow t old new).run s ss = (.ok row, ss'))
    (hold : (s.view ss t).get? (t.key old) = some old) (hk : t.key old = t.key new) :
    row = new := by
  have hrefresh : ∀ {ss₁ : Session Tbl} {cur : t.Row}, (s.view ss₁ t).get? (t.key old) = some cur →
      (refresh t old).run s ss₁ = (.ok cur, ss₁) := by
    intro ss₁ cur hcur
    unfold refresh
    rw [Prog.bind_eq, Prog.run_get_bind, hcur]
    rfl
  unfold updateRow whenever at h
  obtain ⟨_, ss₁, hsave, h⟩ := Prog.run_bind_ok h
  by_cases hchanged : old ≠ new
  · rw [if_pos hchanged, run_save hold hk] at hsave
    cases hsave
    have hstored : (s.view (ss.write (.put t new)) t).get? (t.key old) = some new := by
      rw [view_write_self, hk]
      exact Table.get?_put_self _ new
    rw [hrefresh hstored] at h
    cases h
    rfl
  · rw [if_neg hchanged] at hsave
    cases hsave
    rw [hrefresh hold] at h
    cases h
    exact not_not.mp hchanged

theorem reads_ensureUnused {codeExists : String → Db Bool} {detail : String}
    (h : ∀ code, Reads (codeExists code)) (code : String) :
    Reads (ensureUnused codeExists detail code) := by
  refine .bind (h code) fun found => ?_
  cases found <;> trivial

/-- Looking a code up writes nothing. -/
theorem reads_lookedUpCode {normalize : String → Except PyExc String} {ensure : String → Db Unit}
    (h : ∀ code, Reads (ensure code)) (sent : Sent String) (cur : String) :
    Reads (lookedUpCode normalize ensure sent cur) := by
  unfold lookedUpCode
  split
  · refine .bind (reads_liftExcept _) fun code => .bind ?_ fun _ => trivial
    unfold whenever
    split
    · exact h code
    · trivial
  · trivial

theorem reads_couponCodeExists (code : String) : Reads (CouponRepository.codeExists code) :=
  .bind (.bind (quiet_select _).reads fun _ => (quiet_scalarOneOrNone _).reads) fun _ => trivial

theorem reads_giftcardCodeExists (code : String) : Reads (GiftcardRepository.codeExists code) :=
  .bind (.bind (quiet_select _).reads fun _ => (quiet_scalarOneOrNone _).reads) fun _ => trivial

theorem reads_ensureEmailAvailable (user : User) (sent : Sent String) :
    Reads (ensureEmailAvailable user sent) := by
  unfold ensureEmailAvailable
  split
  · split
    · refine .bind (.bind (.bind (quiet_select _).reads fun _ => ?_) fun _ => trivial)
        fun found => ?_
      · exact (quiet_scalarOneOrNone _).reads
      · cases found <;> trivial
    · trivial
  · trivial

/-- An expiry that is sent is stored. -/
theorem userUpdate_apply {data : UserUpdate} {hash_password : String → String}
    {user user' : User} (h : data.apply hash_password user = .ok user') :
    user'.id = user.id ∧ ∀ ts, data.expired_at = some (some ts) → user'.expired_at = some ts := by
  unfold UserUpdate.apply at h
  rcases hsent : data.expired_at with _ | _ | expired_at <;> rw [hsent] at h <;>
    obtain ⟨stored, hstored, h⟩ := except_bind_ok h
  case some.none => cases hstored
  all_goals
    -- the columns that are NOT NULL
    obtain ⟨_, -, h⟩ := except_bind_ok h
    obtain ⟨_, -, h⟩ := except_bind_ok h
    obtain ⟨_, -, h⟩ := except_bind_ok h
    obtain ⟨_, -, h⟩ := except_bind_ok h
    obtain ⟨_, -, h⟩ := except_bind_ok h
    obtain ⟨_, -, h⟩ := except_bind_ok h
    obtain ⟨_, -, h⟩ := except_bind_ok h
    obtain ⟨_, -, h⟩ := except_bind_ok h
    obtain ⟨_, -, h⟩ := except_bind_ok h
    injection h with h
    rw [← h]
  · exact ⟨rfl, fun ts hts => nomatch hts⟩
  · refine ⟨rfl, fun ts hts => ?_⟩
    rw [← Option.some.inj hts]
    exact (Except.ok.inj hstored).symm

/-- The span of a coupon after an update. -/
theorem couponUpdate_apply {data : CouponUpdate} {code : Sent String} {coupon coupon' : Coupon}
    (h : data.apply rt code coupon = .ok coupon') :
    coupon'.id = coupon.id ∧ data.started_at.required coupon.started_at = .ok coupon'.started_at ∧
      data.ended_at.required coupon.ended_at = .ok coupon'.ended_at := by
  unfold CouponUpdate.apply at h
  obtain ⟨_, -, h⟩ := except_bind_ok h
  obtain ⟨_, -, h⟩ := except_bind_ok h
  obtain ⟨_, -, h⟩ := except_bind_ok h
  obtain ⟨_, -, h⟩ := except_bind_ok h
  obtain ⟨_, -, h⟩ := except_bind_ok h
  obtain ⟨started_at, hstarted, h⟩ := except_bind_ok h
  obtain ⟨ended_at, hended, h⟩ := except_bind_ok h
  injection h with h
  rw [← h]
  exact ⟨rfl, hstarted, hended⟩

/-- The span of a gift card after an update. -/
theorem giftcardUpdate_apply {data : GiftcardUpdate} {code : Sent String} {card card' : Giftcard}
    (h : data.apply code card = .ok card') :
    card'.id = card.id ∧ data.started_at.required card.started_at = .ok card'.started_at ∧
      data.ended_at.required card.ended_at = .ok card'.ended_at := by
  unfold GiftcardUpdate.apply at h
  obtain ⟨_, -, h⟩ := except_bind_ok h
  obtain ⟨_, -, h⟩ := except_bind_ok h
  obtain ⟨_, -, h⟩ := except_bind_ok h
  obtain ⟨started_at, hstarted, h⟩ := except_bind_ok h
  obtain ⟨ended_at, hended, h⟩ := except_bind_ok h
  injection h with h
  rw [← h]
  exact ⟨rfl, hstarted, hended⟩

theorem run_updateUser {hash_password : String → String} {data : UserUpdate} {user user' : User}
    (hstored : (s.db .users).get? user.id = some user)
    (h : (updateUser hash_password user.id data).run s Session.fresh = (.ok user', ss)) :
    data.apply hash_password user = .ok user' := by
  unfold updateUser UserRepository.getById at h
  rw [Prog.bind_eq, Prog.run_get_bind, State.view_fresh, hstored] at h
  obtain ⟨_, ss₁, hemail, h⟩ := Prog.run_bind_ok h
  obtain ⟨new, hnew, h⟩ := run_liftExcept_bind h
  rw [run_of_reads_eq (reads_ensureEmailAvailable user data.email) hemail] at h
  rw [run_updateRow (t := .users) h hstored (userUpdate_apply hnew).1.symm]
  exact hnew

theorem run_updateCoupon {data : CouponUpdate} {coupon coupon' : Coupon}
    (hstored : (s.db .coupon).get? coupon.id = some coupon)
    (h : (CouponService.update rt coupon.id data).run s Session.fresh = (.ok coupon', ss)) :
    ∃ code, data.apply rt code coupon = .ok coupon' := by
  unfold CouponService.update at h
  rw [Prog.bind_eq, Prog.run_get_bind, State.view_fresh, hstored] at h
  obtain ⟨code, ss₁, hcode, h⟩ := Prog.run_bind_ok h
  obtain ⟨_, -, h⟩ := run_liftExcept_bind h
  obtain ⟨new, hnew, h⟩ := run_liftExcept_bind h
  have hreads : Reads (lookedUpCode (CouponService.normalizeCode rt)
      CouponService.ensureCodeAvailable data.code coupon.code) :=
    reads_lookedUpCode (reads_ensureUnused reads_couponCodeExists) _ _
  rw [run_of_reads_eq hreads hcode] at h
  rw [run_updateRow (t := .coupon) h hstored (couponUpdate_apply hnew).1.symm]
  exact ⟨code, hnew⟩

theorem run_updateGiftcard {data : GiftcardUpdate} {card card' : Giftcard}
    (hstored : (s.db .giftcard).get? card.id = some card)
    (h : (GiftcardService.update rt card.id data).run s Session.fresh = (.ok card', ss)) :
    ∃ code, data.apply code card = .ok card' := by
  unfold GiftcardService.update at h
  rw [Prog.bind_eq, Prog.run_get_bind, State.view_fresh, hstored] at h
  obtain ⟨code, ss₁, hcode, h⟩ := Prog.run_bind_ok h
  obtain ⟨_, -, h⟩ := run_liftExcept_bind h
  obtain ⟨new, hnew, h⟩ := run_liftExcept_bind h
  have hreads : Reads (lookedUpCode (GiftcardService.normalizeCode rt)
      GiftcardService.ensureCodeAvailable data.code card.code) :=
    reads_lookedUpCode (reads_ensureUnused reads_giftcardCodeExists) _ _
  rw [run_of_reads_eq hreads hcode] at h
  rw [run_updateRow (t := .giftcard) h hstored (giftcardUpdate_apply hnew).1.symm]
  exact ⟨code, hnew⟩

/-! ## §3. Forms. -/

/-- An edit form of a stored user that is submitted with the expiry it shows is saved as
    `user'`. -/
def UserResubmitted (rt : Runtime) (s : State Tbl) (user user' : User) : Prop :=
  ∃ inputs form data hash_password ss, (s.db .users).get? user.id = some user ∧
    userDateInputs rt user = .ok inputs ∧ form.Shows inputs ∧
    userUpdateFromForm rt form = .ok data ∧
      (updateUser hash_password user.id data).run s Session.fresh = (.ok user', ss)

/-- An edit form of a stored coupon that is submitted with the dates it shows is saved as
    `coupon'`. -/
def CouponResubmitted (rt : Runtime) (s : State Tbl) (coupon coupon' : Coupon) : Prop :=
  ∃ inputs form data ss, (s.db .coupon).get? coupon.id = some coupon ∧
    spanInputs rt coupon.started_at coupon.ended_at = .ok inputs ∧ form.Shows inputs ∧
    couponUpdateFromForm rt form = .ok data ∧
      (CouponService.update rt coupon.id data).run s Session.fresh = (.ok coupon', ss)

/-- An edit form of a stored gift card that is submitted with the dates it shows is saved as
    `card'`. -/
def GiftcardResubmitted (rt : Runtime) (s : State Tbl) (card card' : Giftcard) : Prop :=
  ∃ inputs form data ss, (s.db .giftcard).get? card.id = some card ∧
    spanInputs rt card.started_at card.ended_at = .ok inputs ∧ form.Shows inputs ∧
    giftcardUpdateFromForm rt form = .ok data ∧
      (GiftcardService.update rt card.id data).run s Session.fresh = (.ok card', ss)

/-- The expiry that a form sends. -/
theorem userUpdateFromForm_expired_at {form : Form} {data : UserUpdate}
    (h : userUpdateFromForm rt form = .ok data) :
    ∃ value, datetimeOrOriginal rt (form.get "expired_at") (form.get "expired_at_original") =
      .ok value ∧ data.expired_at = some value := by
  unfold userUpdateFromForm at h
  -- the numbers before it
  obtain ⟨_, -, h⟩ := except_bind_ok h
  obtain ⟨_, -, h⟩ := except_bind_ok h
  obtain ⟨_, -, h⟩ := except_bind_ok h
  obtain ⟨_, -, h⟩ := except_bind_ok h
  obtain ⟨_, -, h⟩ := except_bind_ok h
  obtain ⟨_, -, h⟩ := except_bind_ok h
  obtain ⟨_, -, h⟩ := except_bind_ok h
  obtain ⟨_, -, h⟩ := except_bind_ok h
  obtain ⟨expired_at, hexpired, h⟩ := except_bind_ok h
  injection h with h
  rw [← h]
  exact ⟨expired_at, hexpired, rfl⟩

theorem UserResubmitted.expired_at (h : UtcServer rt) {user user' : User} {ts : Int}
    (hts : InRange rt ts) (huser : user.expired_at = some ts)
    (hedit : UserResubmitted rt s user user') : user'.expired_at = some (ts - ts % 60) := by
  obtain ⟨inputs, form, data, hash_password, ss, hstored, hinputs, hshows, hdata, hrun⟩ := hedit
  obtain ⟨text, htext, hne, hread⟩ := datetimeOrNone_datetimeInputValue h hts
  unfold userDateInputs at hinputs
  rw [huser] at hinputs
  dsimp only [jsonOfInt] at hinputs
  rw [htext] at hinputs
  injection hinputs with hinputs
  have hfield : form.get "expired_at" = some text := by
    refine hshows ("expired_at", text) ?_
    rw [← hinputs]
    exact List.mem_cons_of_mem _ List.mem_cons_self
  obtain ⟨value, hvalue, hsent⟩ := userUpdateFromForm_expired_at hdata
  unfold datetimeOrOriginal at hvalue
  rw [hfield] at hvalue
  have hkept : some (ts - ts % 60) = value :=
    Except.ok.inj ((hread.symm.trans (if_pos hne).symm).trans hvalue)
  exact (userUpdate_apply (run_updateUser hstored hrun)).2 _
    (hsent.trans (congrArg some hkept.symm))

/-- The two dates of a form, as they are read. -/
structure ReadSpan (rt : Runtime) (form : Form) (started_at ended_at : Sent Int) : Prop where
  started : ∃ value, datetimeOrNone rt (form.get "started_at") = .ok value ∧ started_at = some value
  ended : ∃ value, datetimeOrNone rt (form.get "ended_at") = .ok value ∧ ended_at = some value

theorem couponUpdateFromForm_span {form : Form} {data : CouponUpdate}
    (h : couponUpdateFromForm rt form = .ok data) :
    ReadSpan rt form data.started_at data.ended_at := by
  unfold couponUpdateFromForm at h
  obtain ⟨_, -, h⟩ := except_bind_ok h
  obtain ⟨_, -, h⟩ := except_bind_ok h
  obtain ⟨_, -, h⟩ := except_bind_ok h
  obtain ⟨_, -, h⟩ := except_bind_ok h
  obtain ⟨started_at, hstarted, h⟩ := except_bind_ok h
  obtain ⟨ended_at, hended, h⟩ := except_bind_ok h
  injection h with h
  rw [← h]
  exact ⟨⟨started_at, hstarted, rfl⟩, ⟨ended_at, hended, rfl⟩⟩

theorem giftcardUpdateFromForm_span {form : Form} {data : GiftcardUpdate}
    (h : giftcardUpdateFromForm rt form = .ok data) :
    ReadSpan rt form data.started_at data.ended_at := by
  unfold giftcardUpdateFromForm at h
  obtain ⟨_, -, h⟩ := except_bind_ok h
  obtain ⟨_, -, h⟩ := except_bind_ok h
  obtain ⟨_, -, h⟩ := except_bind_ok h
  obtain ⟨_, -, h⟩ := except_bind_ok h
  obtain ⟨started_at, hstarted, h⟩ := except_bind_ok h
  obtain ⟨ended_at, hended, h⟩ := except_bind_ok h
  injection h with h
  rw [← h]
  exact ⟨⟨started_at, hstarted, rfl⟩, ⟨ended_at, hended, rfl⟩⟩

/-- What a form sends that is submitted with the dates it shows. -/
theorem ReadSpan.of_shows (h : UtcServer rt) {started_at ended_at : Int}
    (hstarted : InRange rt started_at) (hended : InRange rt ended_at) {inputs form : Form}
    (hinputs : spanInputs rt started_at ended_at = .ok inputs) (hshows : form.Shows inputs)
    {sent_start sent_end : Sent Int} (hspan : ReadSpan rt form sent_start sent_end) :
    sent_start = some (some (started_at - started_at % 60)) ∧
      sent_end = some (some (ended_at - ended_at % 60)) := by
  obtain ⟨text, htext, -, hread⟩ := datetimeOrNone_datetimeInputValue h hstarted
  obtain ⟨text', htext', -, hread'⟩ := datetimeOrNone_datetimeInputValue h hended
  unfold spanInputs at hinputs
  rw [htext, htext'] at hinputs
  injection hinputs with hinputs
  have hfield : form.get "started_at" = some text := by
    refine hshows ("started_at", text) ?_
    rw [← hinputs]
    exact List.mem_cons_self
  have hfield' : form.get "ended_at" = some text' := by
    refine hshows ("ended_at", text') ?_
    rw [← hinputs]
    exact List.mem_cons_of_mem _ List.mem_cons_self
  obtain ⟨⟨value, hvalue, rfl⟩, ⟨value', hvalue', rfl⟩⟩ := hspan
  rw [hfield, hread] at hvalue
  rw [hfield', hread'] at hvalue'
  rw [Except.ok.inj hvalue, Except.ok.inj hvalue']
  exact ⟨rfl, rfl⟩

/-- A field that is sent with a value has it afterwards. -/
theorem required_eq_ok {sent : Sent Int} {value cur a : Int} (hsent : sent = some (some value))
    (h : sent.required cur = .ok a) : a = value := by
  rw [hsent] at h
  injection h with h
  exact h.symm

theorem CouponResubmitted.span (h : UtcServer rt) {coupon coupon' : Coupon}
    (hstarted : InRange rt coupon.started_at) (hended : InRange rt coupon.ended_at)
    (hedit : CouponResubmitted rt s coupon coupon') :
    coupon'.started_at = coupon.started_at - coupon.started_at % 60 ∧
      coupon'.ended_at = coupon.ended_at - coupon.ended_at % 60 := by
  obtain ⟨inputs, form, data, ss, hstored, hinputs, hshows, hdata, hrun⟩ := hedit
  obtain ⟨hstart, hend⟩ :=
    (couponUpdateFromForm_span hdata).of_shows h hstarted hended hinputs hshows
  obtain ⟨code, happly⟩ := run_updateCoupon hstored hrun
  obtain ⟨-, hstored', hstored''⟩ := couponUpdate_apply happly
  exact ⟨required_eq_ok hstart hstored', required_eq_ok hend hstored''⟩

theorem GiftcardResubmitted.span (h : UtcServer rt) {card card' : Giftcard}
    (hstarted : InRange rt card.started_at) (hended : InRange rt card.ended_at)
    (hedit : GiftcardResubmitted rt s card card') :
    card'.started_at = card.started_at - card.started_at % 60 ∧
      card'.ended_at = card.ended_at - card.ended_at % 60 := by
  obtain ⟨inputs, form, data, ss, hstored, hinputs, hshows, hdata, hrun⟩ := hedit
  obtain ⟨hstart, hend⟩ :=
    (giftcardUpdateFromForm_span hdata).of_shows h hstarted hended hinputs hshows
  obtain ⟨code, happly⟩ := run_updateGiftcard hstored hrun
  obtain ⟨-, hstored', hstored''⟩ := giftcardUpdate_apply happly
  exact ⟨required_eq_ok hstart hstored', required_eq_ok hend hstored''⟩

/-! ## §4. Dates that are kept. -/

/-- **A date is kept exactly if it is a whole minute**, by the two conversions and by the edit
    forms of users, coupons and gift cards. -/
theorem admin_dates_kept_iff (h : UtcServer rt) :
    (∀ ts, InRange rt ts →
      (((datetimeInputValue rt (.int ts)).bind fun text => datetimeOrNone rt (some text)) =
        .ok (some ts) ↔ ts % 60 = 0)) ∧
    (∀ s user user' ts, user.expired_at = some ts → InRange rt ts →
      UserResubmitted rt s user user' → (user'.expired_at = user.expired_at ↔ ts % 60 = 0)) ∧
    (∀ s coupon coupon', InRange rt coupon.started_at → InRange rt coupon.ended_at →
      CouponResubmitted rt s coupon coupon' →
      (coupon'.started_at = coupon.started_at ∧ coupon'.ended_at = coupon.ended_at ↔
        coupon.started_at % 60 = 0 ∧ coupon.ended_at % 60 = 0)) ∧
    ∀ s card card', InRange rt card.started_at → InRange rt card.ended_at →
      GiftcardResubmitted rt s card card' →
      (card'.started_at = card.started_at ∧ card'.ended_at = card.ended_at ↔
        card.started_at % 60 = 0 ∧ card.ended_at % 60 = 0) := by
  refine ⟨fun ts hts => ?_, fun s user user' ts huser hts hedit => ?_,
    fun s coupon coupon' hstarted hended hedit => ?_,
    fun s card card' hstarted hended hedit => ?_⟩
  · obtain ⟨text, htext, -, hread⟩ := datetimeOrNone_datetimeInputValue h hts
    rw [htext]
    show datetimeOrNone rt (some text) = _ ↔ _
    rw [hread, Except.ok.injEq, Option.some.injEq]
    omega
  · rw [hedit.expired_at h hts huser, huser, Option.some.injEq]
    omega
  · obtain ⟨hstart, hend⟩ := hedit.span h hstarted hended
    rw [hstart, hend]
    omega
  · obtain ⟨hstart, hend⟩ := hedit.span h hstarted hended
    rw [hstart, hend]
    omega

/-- An interpreter for ASCII texts on a server in the UTC zone. -/
def utcServer : Runtime :=
  { Utc.bare with
    fromisoformat := Utc.fromisoformat fun _ => .error (.value "Invalid isoformat string") }

theorem not_isSpace_of_isGraphic {c : Char} (h : isGraphic c = true) : Utc.isSpace c = false := by
  by_contra hspace
  rw [Bool.not_eq_false] at hspace
  unfold Utc.isSpace at hspace
  simp only [Bool.or_eq_true, decide_eq_true_eq] at hspace
  rcases hspace with ((rfl | rfl) | rfl) | rfl <;> revert h <;> decide

theorem dropWhile_isSpace_graphic {l : List Char} (h : l.all isGraphic = true) :
    l.dropWhile Utc.isSpace = l := by
  cases l with
  | nil => rfl
  | cons c l =>
      rw [List.all_cons, Bool.and_eq_true] at h
      rw [List.dropWhile_cons, not_isSpace_of_isGraphic h.1]
      rfl

theorem utcServer_utc : UtcServer utcServer where
  fromtimestamp := rfl
  timestamp := rfl
  fromisoformat := ⟨_, rfl⟩
  strip := by
    intro text h
    show Utc.strip text = text
    have hreverse : text.toList.reverse.all isGraphic = true := by rwa [List.all_reverse]
    unfold Utc.strip
    rw [dropWhile_isSpace_graphic h, dropWhile_isSpace_graphic hreverse, List.reverse_reverse,
      String.ofList_toList]
  isdigit := by
    intro text h
    show Utc.isdigit text = false
    unfold Utc.isdigit
    rw [Bool.and_eq_false_iff]
    right
    rw [List.all_eq_false]
    exact ⟨'-', h, by decide⟩

/-- A user whose account ends at a time. -/
def endingAt (ts : Int) : User :=
  { id := 1, email := "a@example.com", password := "", token := "a", uuid := "",
    expired_at := some ts }

/-- The edit form of a user, as it is shown. -/
def shownForm (expired_at_original expired_at : String) : Form :=
  [("email", "a@example.com"), ("balance", "0"), ("transfer_enable", "0"),
    ("expired_at_original", expired_at_original), ("expired_at", expired_at)]

/-- A database with one user. -/
def holding (user : User) : State Tbl := ⟨Database.empty.apply [.put Tbl.users user], 0⟩

/-- The end of an account without end is a whole minute, and is kept. -/
theorem admin_dates_kept_iff_onetime :
    ((datetimeInputValue utcServer (.int NEVER_EXPIRES_AT)).bind fun text =>
      datetimeOrNone utcServer (some text)) = .ok (some NEVER_EXPIRES_AT) ∧
    ∀ user', UserResubmitted utcServer (holding (endingAt NEVER_EXPIRES_AT))
      (endingAt NEVER_EXPIRES_AT) user' → user'.expired_at = some NEVER_EXPIRES_AT := by
  have hrange : InRange utcServer NEVER_EXPIRES_AT := ⟨by decide, by decide⟩
  obtain ⟨hdate, huser, -⟩ := admin_dates_kept_iff utcServer_utc
  refine ⟨(hdate _ hrange).mpr (by decide), fun user' hedit => ?_⟩
  exact (huser _ _ _ _ rfl hrange hedit).mpr (by decide)

/-- **Seconds are lost**: an account that ends at 1970-01-01 00:01:30 ends half a minute earlier
    when its edit form is submitted as it is shown. -/
theorem admin_dates_lose_seconds :
    ((datetimeInputValue utcServer (.int 90)).bind fun text =>
      datetimeOrNone utcServer (some text)) = .ok (some 60) ∧
      UserResubmitted utcServer (holding (endingAt 90)) (endingAt 90) (endingAt 60) := by
  refine ⟨rfl, _, shownForm "90" "1970-01-01T00:01", _, id, _, rfl, rfl, ?_, rfl, rfl⟩
  intro i hi
  rcases List.mem_cons.mp hi with rfl | hi
  · rfl
  · rw [List.mem_singleton.mp hi]
    rfl

end PyBoard.AdminUi
