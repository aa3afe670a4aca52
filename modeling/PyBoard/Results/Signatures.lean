/-
  PyBoard.Results.Signatures — what an EPay signature stands for.

  The signed string joins names and values without any escape, so it is read in one way
  only where the names and values hold no separators and no slashes that would be stripped.
  The signature of a checkout is another matter: its string never has the name that a
  notification must have.

  Main results:
    * `signature_unambiguous` — the fields behind a signed string.
    * `checkout_sign_refused` — a checkout signature verifies no notification.
-/
import PyBoard.Specs.Epay

namespace PyBoard.EPay

variable {libs : EpayLibs}

/-! ## §1. The fields behind a signed string. -/

/-- The text under which a field is signed, if it is. -/
def signedText (libs : EpayLibs) (params : PyDict) (field : PyStr) : Option PyStr :=
  (params.get? field).bind fun value => if isBlank value then none else some (str libs value)

/-- No signed name or value holds a separator or a slash that is stripped; a value may
    hold `=`. -/
def Readable (libs : EpayLibs) (params : PyDict) : Prop :=
  ∀ item ∈ signedItems libs params.items,
    0x3D ∉ item.1 ∧ 0x26 ∉ item.1 ∧ 0x26 ∉ item.2 ∧
      phpStripslashes item.1 = item.1 ∧ phpStripslashes item.2 = item.2

instance (params : PyDict) : Decidable (Readable libs params) :=
  inferInstanceAs (Decidable (∀ item ∈ signedItems libs params.items, _))

theorem signedText_eq_some_iff {params : PyDict} {field t : PyStr}
    (hfield : isSignature field = false) :
    signedText libs params field = some t ↔ (field, t) ∈ signedItems libs params.items := by
  unfold signedText
  rw [mem_signedItems]
  constructor
  · intro h
    obtain ⟨value, hget, hvalue⟩ := Option.bind_eq_some_iff.mp h
    split at hvalue
    · cases hvalue
    next hblank =>
    exact ⟨value, PyDict.mem_of_get? hget, hfield, Bool.eq_false_iff.mpr hblank,
      Option.some.inj hvalue⟩
  · rintro ⟨value, hmem, -, hblank, rfl⟩
    rw [PyDict.get?_of_mem hmem, Option.bind_some, hblank]
    rfl

theorem Readable.stripped {params : PyDict} (h : Readable libs params) :
    (signedItems libs params.items).map stripPair = signedItems libs params.items := by
  refine (List.map_congr_left fun item hitem => ?_).trans (List.map_id _)
  obtain ⟨-, -, -, hname, hvalue⟩ := h item hitem
  exact Prod.ext hname hvalue

theorem Readable.separable {params : PyDict} (h : Readable libs params) :
    Url.Separable (signedItems libs params.items) := by
  intro item hitem
  obtain ⟨heq, hamp, hvalue, -, -⟩ := h item hitem
  exact ⟨heq, hamp, hvalue⟩

/-- **One signed string, one set of fields**: two notifications that sign one string have
    the same text under every field, where what they sign can be read back. -/
theorem signature_unambiguous {self : EPay} {a b : PyDict} {t : PyStr} (ha : Readable libs a)
    (hb : Readable libs b) (hsa : signStr libs self a.items = .ok t)
    (hsb : signStr libs self b.items = .ok t) :
    ∀ field, isSignature field = false → signedText libs a field = signedText libs b field := by
  intro field hfield
  have hjoined := joinPairs_eq_of_signStr hsa hsb
  rw [ha.stripped, hb.stripped] at hjoined
  have hitems := Url.joinPairs_injective ha.separable hb.separable hjoined
  refine Option.ext fun t => ?_
  rw [signedText_eq_some_iff hfield, signedText_eq_some_iff hfield, hitems]

/-! Two notifications of one string. -/

/-- Libraries for texts only. -/
def textLibs : EpayLibs where
  md5_hexdigest _ := []
  repr _ := []
  decimal_of_str _ := none

def merchant : EPay where
  url := .str (text "https://pay.example.com")
  pid := .str (text "123")
  key := .str (text "test")
  pay_type := .str []

/-- A notification, by its names and texts. -/
def notification (items : List (String × String))
    (nodup : ((items.map fun item => (text item.1, PyJson.str (text item.2))).map Prod.fst).Nodup) :
    PyDict :=
  ⟨items.map fun item => (text item.1, .str (text item.2)), nodup⟩

def paidTen : PyDict := notification [("money", "10"), ("out_trade_no", "T1")] (by decide)

def paidMuch : PyDict := notification [("money", "10&out_trade_no=T1")] (by decide)

def paidTenSigned : PyDict := notification
  [("sign", "?"), ("out_trade_no", "T1"), ("name", ""), ("money", "10"), ("sign_type", "MD5")]
  (by decide)

/-- Two orders of the fields, with and without those that are not signed. -/
theorem signature_unambiguous_paid :
    signedText textLibs paidTen (text "money") = signedText textLibs paidTenSigned (text "money") :=
  @signature_unambiguous textLibs merchant paidTen paidTenSigned _ (by decide +kernel)
    (by decide +kernel)
    (show signStr textLibs merchant paidTen.items =
      .ok (text "money=10&out_trade_no=T1test") by decide +kernel)
    (by decide +kernel) (text "money") (by decide)

/-- A value with a separator signs the string of two fields. -/
theorem one_string_two_notifications :
    signStr textLibs merchant paidTen.items = .ok (text "money=10&out_trade_no=T1test") ∧
    signStr textLibs merchant paidMuch.items = .ok (text "money=10&out_trade_no=T1test") ∧
    signedText textLibs paidTen (text "money") ≠ signedText textLibs paidMuch (text "money") ∧
    signedText textLibs paidTen (text "out_trade_no") ≠
      signedText textLibs paidMuch (text "out_trade_no") := by
  decide +kernel

/-! ## §2. Checkouts and notifications. -/

/-- The field that every accepted notification has. -/
def statusName : PyStr := text "trade_status"

/-- A value of a checkout does not mention the field. -/
def Unmentioned (t : PyStr) : Prop := ¬ statusName <:+: t

instance (t : PyStr) : Decidable (Unmentioned t) :=
  inferInstanceAs (Decidable (¬ statusName <:+: t))

/-- A text without the letter `t` does not mention the field. -/
theorem unmentioned_of_no_t {s : String} (h : ∀ c ∈ s.toList, c ≠ 't') : Unmentioned (text s) := by
  intro hinfix
  have hmem : (0x74 : CodePoint) ∈ text s := hinfix.subset (by decide)
  obtain ⟨c, hc, hcode⟩ := List.mem_map.mp hmem
  refine h c hc ?_
  have hnat : (CodePoint.ofChar c).val = (0x74 : CodePoint).val := by rw [hcode]
  exact Char.toNat_inj.mp (show c.toNat = 't'.toNat from hnat)

theorem natRepr_ne_t {n : Nat} : ∀ c ∈ n.repr.toList, c ≠ 't' := by
  intro c hc
  rw [Nat.toList_repr] at hc
  have hdigit := Nat.isDigit_of_mem_toDigits (by decide) (by decide) hc
  rintro rfl
  revert hdigit
  decide

theorem statusName_unslashed : ∀ c ∈ statusName, isSlashed c = false := by
  have hall : (statusName.all fun c => !isSlashed c) = true := by decide
  intro c hc
  simpa using List.all_eq_true.mp hall c hc

/-- An amount is written with digits, a point and a sign. -/
theorem centsToMoney_unmentioned (cents : Int) : Unmentioned (text (centsToMoney cents)) := by
  refine unmentioned_of_no_t ?_
  have hsign : ∀ c ∈ (if cents < 0 then "-" else "").toList, c ≠ 't' := by
    split <;> simp
  have hpoint : ∀ c ∈ ".".toList, c ≠ 't' := by simp
  unfold centsToMoney
  dsimp only
  intro c hc
  rw [String.toList_append, String.toList_append, List.mem_append, List.mem_append] at hc
  rcases hc with (hc | hc) | hc
  · exact hsign c hc
  · exact natRepr_ne_t c hc
  · -- the fraction
    split at hc
    · cases hc
    split at hc
    · rw [String.toList_append, List.mem_append] at hc
      exact hc.elim (hpoint c) (natRepr_ne_t c)
    · rw [String.toList_append, String.toList_append, List.mem_append, List.mem_append] at hc
      rcases hc with (hc | hc) | hc
      · exact hpoint c hc
      · exact natRepr_ne_t c hc
      · exact natRepr_ne_t c hc

/-- The values of a checkout that the merchant and the order choose. -/
structure PlainCheckout (libs : EpayLibs) (driver : EPay) (request : PaymentRequest) : Prop where
  pid : Unmentioned (str libs driver.pid)
  pay_type : Unmentioned (str libs driver.pay_type)
  trade_no : Unmentioned (text request.trade_no)
  notify_url : Unmentioned (text request.notify_url)
  return_url : Unmentioned (text request.return_url)

/-- No name or value of a checkout mentions the field. -/
theorem payParams_unmentioned {self : EPay} {request : PaymentRequest}
    (h : PlainCheckout libs self request) {name : PyStr} {value : PyJson}
    (hmem : (name, value) ∈ payParams self request) :
    Unmentioned name ∧ Unmentioned (str libs value) := by
  unfold payParams at hmem
  rcases List.mem_append.mp hmem with hmem | hmem
  · simp only [List.mem_cons, List.not_mem_nil, or_false, Prod.mk.injEq] at hmem
    rcases hmem with ⟨rfl, rfl⟩ | ⟨rfl, rfl⟩ | ⟨rfl, rfl⟩ | ⟨rfl, rfl⟩ | ⟨rfl, rfl⟩ | ⟨rfl, rfl⟩
    · exact ⟨by decide, centsToMoney_unmentioned _⟩
    · exact ⟨by decide, h.trade_no⟩
    · exact ⟨by decide, h.notify_url⟩
    · exact ⟨by decide, h.return_url⟩
    · exact ⟨by decide, h.trade_no⟩
    · exact ⟨by decide, h.pid⟩
  · split at hmem
    · rw [List.mem_singleton, Prod.mk.injEq] at hmem
      rw [hmem.1, hmem.2]
      exact ⟨by decide, h.pay_type⟩
    · cases hmem

/-- The string of a checkout does not mention the field. -/
theorem paramStr_unmentioned {self : EPay} {request : PaymentRequest}
    (h : PlainCheckout libs self request) :
    Unmentioned (Url.joinPairs ((signedItems libs (payParams self request)).map stripPair)) := by
  intro hinfix
  obtain ⟨item, hitem, hfound⟩ :=
    Url.infix_joinPairs (by decide) (by decide) (by decide) hinfix
  obtain ⟨⟨name, t⟩, hsigned, rfl⟩ := List.mem_map.mp hitem
  obtain ⟨value, hmem, -, -, rfl⟩ := mem_signedItems.mp hsigned
  obtain ⟨hname, hvalue⟩ := payParams_unmentioned h hmem
  -- stripping does not bring it about
  rcases hfound with hfound | hfound
  · exact hname (infix_of_phpStripslashes statusName_unslashed hfound)
  · exact hvalue (infix_of_phpStripslashes statusName_unslashed hfound)

/-- What a notification that is accepted has passed. -/
theorem verifyNotify_success {self : EPay} {params : PyDict} {result : EpayNotifyResult}
    (h : verifyNotify libs self params = .ok result) (hsuccess : result.success = true) :
    ∃ sign, generateSign libs self (verifyParams params) = .ok sign ∧
      params.getD (text "sign") (.str []) = .str sign ∧
      params.get? statusName = some (.str (text "TRADE_SUCCESS")) := by
  unfold verifyNotify at h
  dsimp only at h
  obtain ⟨sign, hsign, h⟩ := except_bind_ok h
  obtain ⟨same, hsame, h⟩ := except_bind_ok h
  have hfail : ∀ r : EpayNotifyResult,
      Except.ok (ε := PyExc) ({ success := false } : EpayNotifyResult) ≠ .ok result := by
    intro _ heq
    rw [← Except.ok.inj heq] at hsuccess
    cases hsuccess
  split at h
  · exact absurd h (hfail result)
  next hsigned =>
  split at h
  · exact absurd h (hfail result)
  split at h
  · exact absurd h (hfail result)
  next hstatus =>
  refine ⟨sign, hsign, ?_, ?_⟩
  · -- the digests are compared as texts
    unfold hashEquals at hsame
    split at hsame
    · next b hb =>
      split at hsame
      · have htrue : decide (sign = b) = true := by
          rw [Except.ok.inj hsame]
          simpa using hsigned
        rw [hb, of_decide_eq_true htrue]
      · cases hsame
    · cases hsame
  · unfold PyDict.getD at hstatus
    cases hget : params.get? (text "trade_status") with
    | none =>
        rw [hget] at hstatus
        exact absurd (by decide) hstatus
    | some value =>
        rw [hget, Option.getD_some] at hstatus
        unfold statusName
        rw [hget]
        cases value with
        | str s =>
            have hs : s = text "TRADE_SUCCESS" := by simpa [PyJson.isText] using hstatus
            rw [hs]
        | _ => exact absurd rfl hstatus

/-- A notification whose signature is another one is refused. -/
theorem verifyNotify_of_other_sign {self : EPay} {params : PyDict} {sign : PyStr}
    (hsign : generateSign libs self (verifyParams params) = .ok sign)
    (hother : hashEquals sign (params.getD (text "sign") (.str [])) = .ok false) :
    verifyNotify libs self params = .ok { success := false } := by
  unfold verifyNotify
  dsimp only
  rw [hsign]
  dsimp only [bind, Except.bind]
  rw [hother]
  rfl

/-- The string of a notification with a status mentions the field. -/
theorem statusName_infix {params : PyDict}
    (h : params.get? statusName = some (.str (text "TRADE_SUCCESS"))) :
    statusName <:+: Url.joinPairs ((signedItems libs (verifyParams params)).map stripPair) := by
  have hsigned : (statusName, text "TRADE_SUCCESS") ∈ signedItems libs (verifyParams params) := by
    refine mem_signedItems.mpr ⟨.str (text "TRADE_SUCCESS"), ?_, by decide, by decide, rfl⟩
    exact List.mem_filter.mpr ⟨PyDict.mem_of_get? h, by decide⟩
  have hstripped : (stripPair (statusName, text "TRADE_SUCCESS")).1 = statusName := by decide
  rw [← hstripped]
  exact Url.infix_name_joinPairs (List.mem_map_of_mem hsigned)

/-- The two strings have different digests if they differ. -/
def DigestsApart (libs : EpayLibs) (self : EPay) (a b : List (PyStr × PyJson)) : Prop :=
  ∀ s s' bytes bytes', signStr libs self a = .ok s → signStr libs self b = .ok s' →
    Utf8.encode s = .ok bytes → Utf8.encode s' = .ok bytes' → s ≠ s' →
    libs.md5_hexdigest bytes ≠ libs.md5_hexdigest bytes'

/-- **The signature of a checkout verifies no notification**, whatever else the notification
    holds. -/
theorem checkout_sign_refused {self : EPay} {request : PaymentRequest} {sign : PyStr}
    {params : PyDict} {result : EpayNotifyResult} (hplain : PlainCheckout libs self request)
    (hdigests : DigestsApart libs self (payParams self request) (verifyParams params))
    (hpay : paySign libs self request = .ok sign)
    (hsign : params.get? (text "sign") = some (.str sign))
    (hresult : verifyNotify libs self params = .ok result) : result.success = false := by
  rw [Bool.eq_false_iff]
  intro hsuccess
  obtain ⟨generated, hgenerated, hgiven, hstatus⟩ := verifyNotify_success hresult hsuccess
  have hsame : generated = sign := by
    unfold PyDict.getD at hgiven
    rw [hsign] at hgiven
    exact (PyJson.str.inj hgiven).symm
  unfold paySign generateSign at hpay
  unfold generateSign at hgenerated
  obtain ⟨s, hs, hpay⟩ := except_bind_ok hpay
  obtain ⟨bytes, hbytes, hpay⟩ := except_bind_ok hpay
  obtain ⟨s', hs', hgenerated⟩ := except_bind_ok hgenerated
  obtain ⟨bytes', hbytes', hgenerated⟩ := except_bind_ok hgenerated
  have hmd5 : libs.md5_hexdigest bytes = libs.md5_hexdigest bytes' := by
    rw [Except.ok.inj hpay, Except.ok.inj hgenerated, hsame]
  have hstrings : s = s' := by
    by_contra hne
    exact hdigests s s' bytes bytes' hs hs' hbytes hbytes' hne hmd5
  -- one string would mention the field and not mention it
  rw [← hstrings] at hs'
  have hjoined := joinPairs_eq_of_signStr hs hs'
  refine paramStr_unmentioned hplain ?_
  rw [hjoined]
  exact statusName_infix hstatus

/-! A checkout of ten and a notification with its signature. -/

/-- The digests of the two strings. -/
def md5Libs : EpayLibs :=
  { textLibs with
    md5_hexdigest := fun bytes =>
      if bytes.length = 106 then text "e50d314868ae2e12c170a8d7a3a10863"
      else text "deb1dc54976445a60c4ef128b05ca3c3" }

def checkoutOfTen : PaymentRequest where
  trade_no := "T1"
  total_amount := 1000
  notify_url := "https://p.example/n"
  return_url := "https://p.example/r"
  user_id := none

def replayedSign : PyDict := notification
  [("money", "10"), ("name", "T1"), ("notify_url", "https://p.example/n"), ("out_trade_no", "T1"),
    ("pid", "123"), ("return_url", "https://p.example/r"), ("trade_no", "9"),
    ("trade_status", "TRADE_SUCCESS"), ("sign", "e50d314868ae2e12c170a8d7a3a10863"),
    ("sign_type", "MD5")] (by decide)

/-- The strings that are signed. -/
def checkoutString : PyStr :=
  text ("money=10&name=T1&notify_url=https://p.example/n&out_trade_no=T1&pid=123" ++
    "&return_url=https://p.example/rtest")

def notificationString : PyStr :=
  text ("money=10&name=T1&notify_url=https://p.example/n&out_trade_no=T1&pid=123" ++
    "&return_url=https://p.example/r&trade_no=9&trade_status=TRADE_SUCCESStest")

theorem digests_apart_of_strings :
    DigestsApart md5Libs merchant (payParams merchant checkoutOfTen)
      (verifyParams replayedSign) := by
  have hpay : signStr md5Libs merchant (payParams merchant checkoutOfTen) = .ok checkoutString := by
    decide +kernel
  have hnotify : signStr md5Libs merchant (verifyParams replayedSign) = .ok notificationString := by
    decide +kernel
  have hlength : (Utf8.encode checkoutString).map List.length = .ok 106 := by decide +kernel
  have hlength' : (Utf8.encode notificationString).map List.length = .ok 144 := by decide +kernel
  intro s s' bytes bytes' hs hs' hbytes hbytes' _
  rw [hpay] at hs
  rw [hnotify] at hs'
  rw [Except.ok.inj hs, hbytes] at hlength
  rw [Except.ok.inj hs', hbytes'] at hlength'
  have h : bytes.length = 106 := Except.ok.inj hlength
  have h' : bytes'.length = 144 := Except.ok.inj hlength'
  unfold md5Libs
  dsimp only
  rw [if_pos h, if_neg (by omega)]
  decide

/-- The signature of the checkout does not pass for that of the notification. -/
theorem checkout_sign_refused_replayed : ∃ result,
    verifyNotify md5Libs merchant replayedSign = .ok result ∧ result.success = false := by
  have hgenerated : generateSign md5Libs merchant (verifyParams replayedSign) =
      .ok (text "deb1dc54976445a60c4ef128b05ca3c3") := by decide +kernel
  have hhash : hashEquals (text "deb1dc54976445a60c4ef128b05ca3c3")
      (replayedSign.getD (text "sign") (.str [])) = .ok false := by decide +kernel
  have hresult := verifyNotify_of_other_sign hgenerated hhash
  have hchecked : paySign md5Libs merchant checkoutOfTen =
      .ok (text "e50d314868ae2e12c170a8d7a3a10863") := by decide +kernel
  have hreplayed : replayedSign.get? (text "sign") =
      some (.str (text "e50d314868ae2e12c170a8d7a3a10863")) :=
    PyDict.get?_of_mem (List.mem_map.mpr
      ⟨("sign", "e50d314868ae2e12c170a8d7a3a10863"), by decide, rfl⟩)
  refine ⟨_, hresult, checkout_sign_refused ?_ digests_apart_of_strings hchecked hreplayed hresult⟩
  constructor <;> decide +kernel

end PyBoard.EPay
