/-
  PyBoard.Results.Money — invoiced amounts come back.

  An amount of cents is written with at most two digits after the point and without an
  exponent, and what is written is read back as the same number of cents.  The driver therefore
  reports the invoiced amount for a notification that repeats the text of the invoice.

  Main results:
    * `centsToMoneySteps_eq` — the text of an amount.
    * `moneyToCents_centsToMoney` — it is read back.
    * `invoiced_money_matches` — the notification of an invoice.
-/
import PyBoard.Models.Entities
import PyBoard.Specs.Epay

namespace PyBoard.EPay

variable {libs : EpayLibs} {unicode : CodePoint → Option Nat}

/-! ## §1. The digits of an amount. -/

/-- The digits before the point. -/
def unitDigits (c : Nat) : List Char := Nat.toDigits 10 (c / 100)

/-- The digits after the point. -/
def centDigits (c : Nat) : List Char :=
  if c % 100 = 0 then []
  else if c % 10 = 0 then [Nat.digitChar (c % 100 / 10)]
  else [Nat.digitChar (c % 100 / 10), Nat.digitChar (c % 10)]

/-- The text of an amount. -/
def amountText (c : Nat) : String :=
  String.ofList (unitDigits c) ++
    if centDigits c = [] then "" else "." ++ String.ofList (centDigits c)

theorem repr_of_lt_ten {d : Nat} (hd : d < 10) : Nat.repr d = String.ofList [Nat.digitChar d] := by
  rw [Nat.repr_eq_ofList_toDigits, Nat.toDigits_of_lt_base hd]

theorem centsToMoney_natCast {c : Nat} (hc : c < 10 ^ Decimal.prec) :
    centsToMoney c = amountText c := by
  have hfew : Decimal.digits c ≤ Decimal.prec := (Decimal.digits_le_iff (by decide)).mpr hc
  have htens : c % 100 / 10 < 10 := by omega
  have hones : c % 10 < 10 := by omega
  unfold centsToMoney amountText centDigits unitDigits
  rw [Int.natAbs_natCast, Nat.sub_eq_zero_of_le hfew]
  dsimp only
  rw [Decimal.roundHalfEven_zero, Nat.pow_zero, Nat.mul_one, if_neg (by omega),
    repr_of_lt_ten htens, repr_of_lt_ten hones, Nat.repr_eq_ofList_toDigits, String.empty_append]
  by_cases hhundred : c % 100 = 0
  · rw [if_pos hhundred, if_pos hhundred, if_pos rfl]
  · rw [if_neg hhundred, if_neg hhundred]
    by_cases hten : c % 10 = 0
    · rw [if_pos hten, if_pos hten, if_neg (by simp)]
    · rw [if_neg hten, if_neg hten, if_neg (by simp), String.append_assoc, ← String.ofList_append]
      rfl

/-- The last digits of a number that is no multiple of ten. -/
theorem lastDigits_two (n : Nat) : Decimal.lastDigits n 2 =
    String.ofList [Nat.digitChar (n % 100 / 10), Nat.digitChar (n % 10)] := by
  have hall : ∀ r < 100, Decimal.lastDigits r 2 =
      String.ofList [Nat.digitChar (r / 10), Nat.digitChar (r % 10)] := by
    decide +kernel
  have hlast := hall (n % 100) (by omega)
  have hmod : n % 100 % 10 = n % 10 := by omega
  rw [hmod] at hlast
  rw [← hlast]
  unfold Decimal.lastDigits
  rw [show (10 : Nat) ^ 2 = 100 from rfl, Nat.mod_mod]

theorem lastDigits_one (n : Nat) :
    Decimal.lastDigits n 1 = String.ofList [Nat.digitChar (n % 10)] := by
  unfold Decimal.lastDigits
  rw [Nat.pow_one, Nat.toDigits_of_lt_base (by omega)]
  rfl

/-- A coefficient without zeros at its end is written with as many places as it has. -/
theorem formatF_trailingZeros {c z : Nat} (hdvd : 10 ^ z ∣ c) (hmax : ∀ k, 10 ^ k ∣ c → k ≤ z) :
    Decimal.formatF (.finite (c / 10 ^ z : Nat) (z - 2)) = amountText c := by
  unfold Decimal.formatF amountText unitDigits centDigits
  dsimp only
  rw [if_neg (Int.not_lt.mpr (Int.natCast_nonneg _)), Int.natAbs_natCast, String.empty_append,
    ← Nat.repr_eq_ofList_toDigits]
  have hten : c % 10 = 0 ↔ 1 ≤ z :=
    ⟨fun h => hmax 1 (by rw [Nat.pow_one]; exact Nat.dvd_of_mod_eq_zero h),
      fun h => Nat.mod_eq_zero_of_dvd ((Nat.pow_dvd_pow 10 h).trans hdvd)⟩
  have hhundred : c % 100 = 0 ↔ 2 ≤ z :=
    ⟨fun h => hmax 2 (Nat.dvd_of_mod_eq_zero h),
      fun h => Nat.mod_eq_zero_of_dvd ((Nat.pow_dvd_pow 10 h).trans hdvd)⟩
  by_cases htwo : 2 ≤ z
  · obtain ⟨j, rfl⟩ : ∃ j, z = 2 + j := ⟨z - 2, by omega⟩
    obtain ⟨q, rfl⟩ := hdvd
    have hplaces : (-(((2 + j : Nat) : Int) - 2)).toNat = 0 := by omega
    have hzeros : (((2 + j : Nat) : Int) - 2).toNat = j := by omega
    have hunits : 10 ^ (2 + j) * q / 100 = q * 10 ^ j := by
      rw [Nat.pow_add, Nat.mul_assoc, show (10 : Nat) ^ 2 = 100 from rfl,
        Nat.mul_div_cancel_left _ (by decide), Nat.mul_comm]
    rw [Nat.mul_div_cancel_left _ (Nat.pow_pos (by decide)), hplaces, hzeros, Nat.pow_zero,
      Nat.div_one, if_pos rfl, if_pos (hhundred.mpr htwo), if_pos rfl, hunits]
  · rw [if_neg fun h => htwo (hhundred.mp h)]
    by_cases hone : 1 ≤ z
    · obtain rfl : z = 1 := by omega
      rw [if_pos (hten.mpr hone), if_neg (by simp), show (((1 : Nat) : Int) - 2).toNat = 0 from rfl,
        show (-(((1 : Nat) : Int) - 2)).toNat = 1 from rfl, Nat.pow_zero, Nat.mul_one, Nat.pow_one,
        Nat.div_div_eq_div_mul, if_neg (List.cons_ne_nil _ _), lastDigits_one,
        show c / 10 % 10 = c % 100 / 10 by omega]
    · obtain rfl : z = 0 := by omega
      rw [if_neg fun h => hone (hten.mp h), if_neg (by simp),
        show (((0 : Nat) : Int) - 2).toNat = 0 from rfl,
        show (-(((0 : Nat) : Int) - 2)).toNat = 2 from rfl, Nat.pow_zero, Nat.mul_one, Nat.div_one,
        if_neg (List.cons_ne_nil _ _), lastDigits_two]
      rfl

/-- **The text of an amount** is what the operations on decimals write. -/
theorem centsToMoneySteps_eq {c : Nat} (hc : c < 10 ^ Decimal.prec) :
    centsToMoneySteps c = .ok (amountText c) := by
  unfold centsToMoneySteps
  by_cases hpos : 0 < c
  · have hsteps := Decimal.normalize_div_hundred hpos hc
    have hdvd := Decimal.pow_trailingZeros_dvd hpos
    have hmax := Decimal.le_trailingZeros_iff hpos
    generalize hz : Decimal.trailingZeros c = z at *
    cases hdiv : Decimal.div (.ofInt c) (.ofInt 100) with
    | error e =>
        rw [hdiv] at hsteps
        cases hsteps
    | ok amount =>
        rw [hdiv] at hsteps
        show Except.ok (Decimal.formatF (Decimal.normalize amount)) = _
        rw [Except.ok.inj hsteps]
        congr 1
        exact formatF_trailingZeros hdvd fun k hk => (hmax k).mpr hk
  · obtain rfl : c = 0 := by omega
    decide +kernel

/-! ## §2. What is written is read back. -/

theorem amountText_digits (c : Nat) : ∀ d ∈ unitDigits c ++ centDigits c, d.isDigit = true := by
  have hdigit : ∀ d < 10, (Nat.digitChar d).isDigit = true := by decide
  intro d hd
  cases List.mem_append.mp hd with
  | inl hd => exact Nat.isDigit_of_mem_toDigits (by decide) (by decide) hd
  | inr hd =>
      unfold centDigits at hd
      split at hd
      · cases hd
      split at hd
      · rw [List.mem_singleton.mp hd]
        exact hdigit _ (by omega)
      · simp only [List.mem_cons, List.not_mem_nil, or_false] at hd
        cases hd with
        | inl hd =>
            rw [hd]
            exact hdigit _ (by omega)
        | inr hd =>
            rw [hd]
            exact hdigit _ (by omega)

/-- The digits write the amount, in the unit of the last one. -/
theorem ofDigitChars_amount (c : Nat) :
    (centDigits c).length ≤ 2 ∧
      Nat.ofDigitChars 10 (unitDigits c ++ centDigits c) 0 * 100 =
        c * 10 ^ (centDigits c).length := by
  have htens : c % 100 / 10 < 10 := by omega
  have hones : c % 10 < 10 := by omega
  unfold unitDigits centDigits
  rw [Nat.ofDigitChars_append, Nat.ofDigitChars_ten_toDigits]
  split
  · simp
    omega
  · split
    · rw [Nat.ofDigitChars_cons_digitChar_of_lt_ten htens, Nat.ofDigitChars_nil]
      simp
      omega
    · rw [Nat.ofDigitChars_cons_digitChar_of_lt_ten htens,
        Nat.ofDigitChars_cons_digitChar_of_lt_ten hones, Nat.ofDigitChars_nil]
      simp
      omega

theorem text_ofList (cs : List Char) : text (String.ofList cs) = cs.map .ofChar := by
  unfold text PyStr.ofString
  rw [String.toList_ofList]

/-- The digits of an amount are read as they are written. -/
theorem ofStr_amountText {c : Nat} (hc : c < 10 ^ 26) :
    Decimal.ofStr unicode (text (amountText c)) =
      some (.finite (Nat.ofDigitChars 10 (unitDigits c ++ centDigits c) 0)
        (-(centDigits c).length)) := by
  have hdigits := amountText_digits c
  obtain ⟨hlen, hvalue⟩ := ofDigitChars_amount c
  have hunit : unitDigits c ≠ [] := Nat.toDigits_ne_nil
  have hsmall : Nat.ofDigitChars 10 (unitDigits c ++ centDigits c) 0 < 10 ^ 28 := by
    have hle : 10 ^ (centDigits c).length ≤ 10 ^ 2 := Nat.pow_le_pow_right (by decide) hlen
    have hmul : c * 10 ^ (centDigits c).length ≤ c * 10 ^ 2 := Nat.mul_le_mul_left c hle
    omega
  have hfew := (Decimal.digits_le_iff (by decide)).mpr hsmall
  have hrange : Decimal.inRange (Nat.ofDigitChars 10 (unitDigits c ++ centDigits c) 0)
      (-(centDigits c).length) = true := by
    unfold Decimal.inRange
    simp only [Bool.and_eq_true, decide_eq_true_eq]
    omega
  unfold amountText
  by_cases hcents : centDigits c = []
  · rw [hcents, List.append_nil] at hdigits
    rw [hcents, List.append_nil] at hrange ⊢
    rw [if_pos rfl, String.append_empty, text_ofList, Decimal.ofStr_integer hunit hdigits hrange]
    rfl
  · have hpoint : text (String.ofList (unitDigits c) ++ ("." ++ String.ofList (centDigits c))) =
        (unitDigits c).map .ofChar ++ Decimal.point :: (centDigits c).map .ofChar := by
      unfold text PyStr.ofString
      rw [String.toList_append, String.toList_append, List.map_append, List.map_append,
        @String.toList_ofList (unitDigits c), @String.toList_ofList (centDigits c)]
      rfl
    rw [if_neg hcents, hpoint, Decimal.ofStr_point hunit hdigits hrange]

/-- **The text of an amount is read back** as the same number of cents. -/
theorem moneyToCents_amountText (hlibs : libs.decimal_of_str = Decimal.ofStr unicode) {c : Nat}
    (hc : c < 10 ^ 26) : moneyToCents libs (.str (text (amountText c))) = .ok (some (c : Int)) := by
  obtain ⟨hlen, hvalue⟩ := ofDigitChars_amount c
  have hread := @ofStr_amountText unicode c hc
  generalize Nat.ofDigitChars 10 (unitDigits c ++ centDigits c) 0 = x at *
  generalize (centDigits c).length = len at *
  have hpow : 10 ^ len ≤ 10 ^ 2 := Nat.pow_le_pow_right (by decide) hlen
  have hbound : x * 100 < 10 ^ Decimal.prec := by
    have hmul : c * 10 ^ len ≤ c * 10 ^ 2 := Nat.mul_le_mul_left c hpow
    rw [hvalue]
    unfold Decimal.prec
    omega
  have hmul : (Decimal.finite x (-len)).mul (.ofInt 100) =
      .ok (.finite (x * 100 : Nat) (-len)) := by
    show Except.ok (Decimal.fix ((x : Int) * 100) (-(len : Int) + 0)) = _
    rw [Int.add_zero, show ((x : Int) * 100) = ((x * 100 : Nat) : Int) by push_cast; rfl,
      Decimal.fix_of_lt hbound]
  have hup : Decimal.roundHalfUp ((x * 100 : Nat) : Int) (-len) = c := by
    unfold Decimal.roundHalfUp
    rw [Int.natAbs_natCast, hvalue]
    have hpos : 0 < 10 ^ len := Nat.pow_pos (by decide)
    split
    · next hzero =>
      obtain rfl : len = 0 := by omega
      simp
    · rw [Int.neg_neg, Int.toNat_natCast]
      dsimp only
      rw [Nat.mul_div_cancel _ hpos, Nat.mul_mod_left, if_neg (by omega)]
  have hquantize : (Decimal.finite ((x * 100 : Nat) : Int) (-len)).quantizeUnit =
      .ok (.finite c 0) := by
    have hfew : Decimal.digits c ≤ Decimal.prec := by
      refine (Decimal.digits_le_iff (by decide)).mpr ?_
      unfold Decimal.prec
      omega
    unfold Decimal.quantizeUnit
    dsimp only
    rw [hup, if_neg (by omega)]
    by_cases hzero : c = 0
    · simp [hzero]
    · have hx : x * 100 ≠ 0 := by
        have hpos : 0 < c * 10 ^ len := Nat.mul_pos (by omega) (Nat.pow_pos (by decide))
        omega
      rw [Int.sign_natCast_of_ne_zero hx, Int.one_mul]
  have hnum : libs.decimal_of_str (str libs (.str (text (amountText c)))) =
      some (.finite x (-len)) := by
    rw [hlibs]
    exact hread
  unfold moneyToCents
  rw [hnum]
  dsimp only [bind, Except.bind]
  rw [hmul]
  dsimp only
  rw [hquantize]
  unfold Decimal.isNegative Decimal.toInt
  dsimp only
  rw [if_pos le_rfl]
  simp [pure, Except.pure]

/-! ## §3. The notification of an invoice. -/

/-- The notification repeats the amount of the invoice. -/
def Echoes (self : EPay) (request : PaymentRequest) (params : PyDict) : Prop :=
  ∀ value, (text "money", value) ∈ payParams self request →
    params.getD (text "money") .null = value

/-- What a notification with a known number of cents comes to. -/
theorem verifyNotify_of_cents {self : EPay} {params : PyDict} {result : EpayNotifyResult} {c : Int}
    (hcents : moneyToCents libs (params.getD (text "money") .null) = .ok (some c))
    (h : verifyNotify libs self params = .ok result) :
    (result.success = true ↔ Authentic libs self params ∧
      (params.getD (text "out_trade_no") (.str [])).truthy = true ∧
      (params.getD (text "trade_no") (.str [])).truthy = true) ∧
    (result.success = true → result.paid_amount = some c) := by
  have hread := h
  unfold verifyNotify at hread
  dsimp only at hread
  obtain ⟨sign, hsign, hread⟩ := except_bind_ok hread
  obtain ⟨same, hsame, -⟩ := except_bind_ok hread
  have htrue := hashEquals_ok hsame
  rw [verifyNotify_of_same hsign hsame, hcents] at h
  have hgenuine : Authentic libs self params ↔ same = true ∧
      (self.pid.truthy → str libs (params.getD (text "pid") (.str [])) = str libs self.pid) ∧
      (params.getD (text "trade_status") (.str [])).isText (text "TRADE_SUCCESS") = true := by
    unfold Authentic
    rw [htrue]
    constructor
    · rintro ⟨⟨generated, hown, hgiven⟩, hrest⟩
      rw [hsign] at hown
      exact ⟨by rw [hgiven, Except.ok.inj hown], hrest⟩
    · rintro ⟨hgiven, hrest⟩
      exact ⟨⟨sign, hsign, hgiven⟩, hrest⟩
  rw [hgenuine]
  split at h
  · next hpassed =>
    have hresult : result = resultOf params (some c) := (Except.ok.inj h).symm
    rw [hresult]
    unfold resultOf
    by_cases hout : (params.getD (text "out_trade_no") (.str [])).truthy = true
    · by_cases htrade : (params.getD (text "trade_no") (.str [])).truthy = true
      · rw [if_neg (by simp [hout, htrade])]
        exact ⟨⟨fun _ => ⟨hpassed, hout, htrade⟩, fun _ => rfl⟩, fun _ => rfl⟩
      · rw [if_pos (by simp [htrade])]
        simp [htrade]
    · rw [if_pos (by simp [hout])]
      simp [hout]
  · next hrefused =>
    rw [← Except.ok.inj h]
    simp [hrefused]

/-- **The invoiced amount comes back**: what a checkout writes is a plain number that is read
    as the same cents, so that a notification which repeats it reports what the order
    expects. -/
theorem invoiced_money_matches (hlibs : libs.decimal_of_str = Decimal.ofStr unicode) {c : Int}
    (hc : 0 ≤ c) (hbound : c < 10 ^ 26) :
    (∃ money, centsToMoneySteps c = .ok money ∧ centsToMoney c = money ∧
      (∀ d ∈ money.toList, d.isDigit = true ∨ d = '.') ∧
      moneyToCents libs (.str (text money)) = .ok (some c)) ∧
    ∀ (self : EPay) (request : PaymentRequest) (order : Order) (params : PyDict)
      (result : EpayNotifyResult), order.total_amount + order.handling_amount.getD 0 = c →
      request.total_amount = c → Echoes self request params →
      verifyNotify libs self params = .ok result →
      (result.success = true ↔ Authentic libs self params ∧
        (params.getD (text "out_trade_no") (.str [])).truthy = true ∧
        (params.getD (text "trade_no") (.str [])).truthy = true) ∧
      (result.success = true →
        result.paid_amount = some (order.total_amount + order.handling_amount.getD 0)) := by
  obtain ⟨n, rfl⟩ := Int.eq_ofNat_of_zero_le hc
  have hn : n < 10 ^ 26 := by omega
  have hprec : n < 10 ^ Decimal.prec := by
    unfold Decimal.prec
    omega
  have hmoney := centsToMoney_natCast hprec
  have hback := moneyToCents_amountText hlibs hn
  refine ⟨⟨amountText n, centsToMoneySteps_eq hprec, hmoney, ?_, hback⟩, ?_⟩
  · intro d hd
    have hdigits := amountText_digits n
    unfold amountText at hd
    rw [String.toList_append, List.mem_append, String.toList_ofList] at hd
    cases hd with
    | inl hd => exact Or.inl (hdigits d (List.mem_append_left _ hd))
    | inr hd =>
        split at hd
        · cases hd
        · rw [String.toList_append, List.mem_append, @String.toList_ofList (centDigits n)] at hd
          cases hd with
          | inl hd => exact Or.inr (List.mem_singleton.mp hd)
          | inr hd => exact Or.inl (hdigits d (List.mem_append_right _ hd))
  · intro self request order params result horder hrequest hecho hresult
    have hgiven : params.getD (text "money") .null = .str (text (centsToMoney n)) := by
      refine hecho _ ?_
      unfold payParams
      rw [hrequest]
      exact List.mem_append_left _ (List.mem_cons_self ..)
    rw [horder]
    refine verifyNotify_of_cents ?_ hresult
    rw [hgiven, hmoney]
    exact hback

/-! An invoice of ten and a half. -/

def decimalLibs : EpayLibs where
  md5_hexdigest _ := []
  repr _ := []
  decimal_of_str := Decimal.ofStr fun _ => none

theorem invoiced_money_matches_half : centsToMoneySteps 1050 = .ok "10.5" ∧
    moneyToCents decimalLibs (.str (text "10.5")) = .ok (some 1050) := by
  have hrow := @invoiced_money_matches decimalLibs (fun _ => none) rfl 1050 (by decide) (by decide)
  obtain ⟨money, hsteps, -, -, hback⟩ := hrow.1
  have htext : centsToMoneySteps 1050 = .ok "10.5" := by decide +kernel
  rw [htext] at hsteps
  rw [← Except.ok.inj hsteps] at hback
  exact ⟨htext, hback⟩

end PyBoard.EPay
