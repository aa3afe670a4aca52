/-
  PyBoard.Specs.Epay — the string that EPay signs.

  The form is decoded as a whole, so what is signed is the list of the pairs, joined and
  stripped of slashes; stripping happens within each name and value, as no slash stands
  before a separator.

  Main results:
    * `signStr_ok` — the signed string.
    * `phpStripslashes_joinPairs` — stripping goes pair by pair.
    * `joinPairs_injective` — separable pairs are read in one way.
    * `infix_joinPairs` — a text without separators is found within a name or a value.
-/
import PyBoard.Payments.Epay

namespace PyBoard

/-! ## §1. Joined pairs. -/

section

variable {α : Type} {needle : List α} {c : α}

/-- What is found at the start before a separator does not reach over it. -/
theorem prefix_of_append_sep {a b : List α} (hc : c ∉ needle) (h : needle <+: a ++ c :: b) :
    needle <+: a := by
  induction a generalizing needle with
  | nil =>
      rcases List.prefix_cons_iff.mp h with hnil | ⟨t, ht, -⟩
      · rw [hnil]
      · exact absurd (ht ▸ List.mem_cons_self) hc
  | cons x a ih =>
      rcases List.prefix_cons_iff.mp h with hnil | ⟨t, ht, htail⟩
      · rw [hnil]
        exact List.nil_prefix
      · rw [ht] at hc ⊢
        exact List.cons_prefix_cons.mpr ⟨rfl, ih (fun h => hc (List.mem_cons_of_mem _ h)) htail⟩

/-- What is found around a separator that it does not hold is found on one side. -/
theorem infix_of_append_sep {a b : List α} (hc : c ∉ needle) (h : needle <:+: a ++ c :: b) :
    needle <:+: a ∨ needle <:+: b := by
  induction a with
  | nil =>
      rcases List.infix_cons_iff.mp h with hprefix | htail
      · exact Or.inl (prefix_of_append_sep (a := []) hc hprefix).isInfix
      · exact Or.inr htail
  | cons x a ih =>
      rcases List.infix_cons_iff.mp h with hprefix | htail
      · exact Or.inl (prefix_of_append_sep hc hprefix).isInfix
      · rcases ih htail with ha | hb
        · exact Or.inl (List.infix_cons_iff.mpr (Or.inr ha))
        · exact Or.inr hb

end

namespace Url

theorem joinPairs_cons_cons (item item' : PyStr × PyStr) (items : List (PyStr × PyStr)) :
    joinPairs (item :: item' :: items) =
      (item.1 ++ 0x3D :: item.2) ++ 0x26 :: joinPairs (item' :: items) := by
  unfold joinPairs
  rw [List.map_cons, List.map_cons, List.intercalate_cons_cons, List.append_assoc]
  rfl

theorem joinPairs_singleton (item : PyStr × PyStr) :
    joinPairs [item] = item.1 ++ 0x3D :: item.2 := by
  simp [joinPairs]

/-- **A text without separators is found within a name or a value.** -/
theorem infix_joinPairs {needle : PyStr} {items : List (PyStr × PyStr)} (hne : needle ≠ [])
    (hamp : 0x26 ∉ needle) (heq : 0x3D ∉ needle) (h : needle <:+: joinPairs items) :
    ∃ item ∈ items, needle <:+: item.1 ∨ needle <:+: item.2 := by
  induction items with
  | nil => exact absurd (List.infix_nil.mp h) hne
  | cons item items ih =>
      cases items with
      | nil =>
          rw [joinPairs_singleton] at h
          exact ⟨item, List.mem_cons_self, infix_of_append_sep heq h⟩
      | cons item' items =>
          rw [joinPairs_cons_cons] at h
          rcases infix_of_append_sep hamp h with hfirst | hrest
          · exact ⟨item, List.mem_cons_self, infix_of_append_sep heq hfirst⟩
          · obtain ⟨found, hmem, hfound⟩ := ih hrest
            exact ⟨found, List.mem_cons_of_mem _ hmem, hfound⟩

theorem infix_name_joinPairs {items : List (PyStr × PyStr)} {item : PyStr × PyStr}
    (h : item ∈ items) : item.1 <:+: joinPairs items := by
  induction items with
  | nil => cases h
  | cons first items ih =>
      have hfirst : first.1 <:+: first.1 ++ 0x3D :: first.2 := (List.prefix_append _ _).isInfix
      cases items with
      | nil =>
          rw [joinPairs_singleton, List.mem_singleton.mp h]
          exact hfirst
      | cons second items =>
          rw [joinPairs_cons_cons]
          rcases List.mem_cons.mp h with heq | hmem
          · rw [heq]
            exact hfirst.trans (List.prefix_append _ _).isInfix
          · refine (ih hmem).trans ?_
            exact (List.suffix_append (_ ++ [0x26]) _).isInfix.trans
              (by rw [List.append_assoc]; exact List.infix_rfl)

/-- Pairs whose joined text can be taken apart. -/
def Separable (items : List (PyStr × PyStr)) : Prop :=
  ∀ item ∈ items, 0x3D ∉ item.1 ∧ 0x26 ∉ item.1 ∧ 0x26 ∉ item.2

/-- A name ends at its first `=`. -/
theorem pair_injective {item item' : PyStr × PyStr} (h : 0x3D ∉ item.1) (h' : 0x3D ∉ item'.1)
    (heq : item.1 ++ 0x3D :: item.2 = item'.1 ++ 0x3D :: item'.2) : item = item' := by
  have hname : ∀ i : PyStr × PyStr, 0x3D ∉ i.1 →
      (i.1 ++ 0x3D :: i.2).takeWhile (· ≠ 0x3D) = i.1 := by
    intro i hi
    rw [List.takeWhile_append_of_pos]
    · simp
    · intro c hc
      exact decide_eq_true fun h => hi (h ▸ hc)
  have hfst : item.1 = item'.1 := by
    rw [← hname item h, heq, hname item' h']
  have hsnd : item.2 = item'.2 := by
    rw [hfst] at heq
    exact (List.cons.inj (List.append_cancel_left heq)).2
  exact Prod.ext hfst hsnd

/-- **Separable pairs are read in one way.** -/
theorem joinPairs_injective {items items' : List (PyStr × PyStr)} (h : Separable items)
    (h' : Separable items') (heq : joinPairs items = joinPairs items') : items = items' := by
  have hsplit : ∀ l : List (PyStr × PyStr), Separable l → l ≠ [] →
      (joinPairs l).splitOn 0x26 = l.map fun item => item.1 ++ 0x3D :: item.2 := by
    intro l hl hne
    unfold joinPairs
    refine List.splitOn_intercalate 0x26 ?_ (by simpa using hne)
    intro pair hpair
    obtain ⟨item, hitem, rfl⟩ := List.mem_map.mp hpair
    obtain ⟨-, hname, hvalue⟩ := hl item hitem
    simp [hname, hvalue]
  have hnil : ∀ l : List (PyStr × PyStr), joinPairs l = [] → l = [] := by
    intro l hl
    cases l with
    | nil => rfl
    | cons item rest =>
        cases rest with
        | nil =>
            rw [joinPairs_singleton] at hl
            exact absurd hl (by simp)
        | cons item' rest =>
            rw [joinPairs_cons_cons] at hl
            exact absurd hl (by simp)
  by_cases hne : items = []
  · rw [hne] at heq ⊢
    exact (hnil items' heq.symm).symm
  by_cases hne' : items' = []
  · rw [hne'] at heq
    exact absurd (hnil items heq) hne
  have hmap : items.map (fun item => item.1 ++ 0x3D :: item.2) =
      items'.map fun item => item.1 ++ 0x3D :: item.2 := by
    rw [← hsplit items h hne, heq, hsplit items' h' hne']
  clear heq hne hne'
  -- pair by pair
  induction items generalizing items' with
  | nil => exact (List.map_eq_nil_iff.mp hmap.symm).symm
  | cons item items ih =>
      cases items' with
      | nil => cases hmap
      | cons item' items' =>
          rw [List.map_cons, List.map_cons] at hmap
          obtain ⟨hfirst, hrest⟩ := List.cons.inj hmap
          have hitem := pair_injective (h item List.mem_cons_self).1
            (h' item' List.mem_cons_self).1 hfirst
          rw [hitem, ih (fun i hi => h i (List.mem_cons_of_mem _ hi))
            (fun i hi => h' i (List.mem_cons_of_mem _ hi)) hrest]

end Url

namespace EPay

variable {libs : EpayLibs}

/-! ## §2. Slashes. -/

/-- Slashes are stripped on either side of a character that none stands before. -/
theorem phpStripslashes_append_sep {c : CodePoint} (hc : isSlashed c = false) (a b : PyStr) :
    phpStripslashes (a ++ c :: b) = phpStripslashes a ++ c :: phpStripslashes b := by
  have hstep : ∀ b, phpStripslashes (c :: b) = c :: phpStripslashes b := by
    intro b
    cases b with
    | nil => rfl
    | cons d b =>
        have hne : ¬(c = 0x5C ∧ isSlashed d = true) := by
          intro h
          rw [h.1] at hc
          cases hc
        rw [phpStripslashes, if_neg hne]
  induction a using phpStripslashes.induct with
  | case1 => exact hstep b
  | case2 x =>
      have hne : ¬(x = 0x5C ∧ isSlashed c = true) := by
        intro h
        rw [hc] at h
        cases h.2
      show phpStripslashes (x :: c :: b) = x :: c :: phpStripslashes b
      rw [phpStripslashes, if_neg hne, hstep]
  | case3 x d rest hslash ih =>
      show phpStripslashes (x :: d :: (rest ++ c :: b)) = _
      rw [phpStripslashes, if_pos hslash, ih, phpStripslashes, if_pos hslash]
      rfl
  | case4 x d rest hslash ih =>
      show phpStripslashes (x :: d :: (rest ++ c :: b)) = _
      rw [phpStripslashes, if_neg hslash, phpStripslashes, if_neg hslash]
      show x :: phpStripslashes (d :: rest ++ c :: b) = _
      rw [ih]
      rfl

/-- A pair without its slashes. -/
def stripPair (item : PyStr × PyStr) : PyStr × PyStr :=
  (phpStripslashes item.1, phpStripslashes item.2)

/-- **Stripping goes pair by pair.** -/
theorem phpStripslashes_joinPairs (items : List (PyStr × PyStr)) :
    phpStripslashes (Url.joinPairs items) = Url.joinPairs (items.map stripPair) := by
  induction items with
  | nil => rfl
  | cons item items ih =>
      cases items with
      | nil =>
          rw [List.map_cons, List.map_nil, Url.joinPairs_singleton, Url.joinPairs_singleton,
            phpStripslashes_append_sep (by decide)]
          rfl
      | cons item' items =>
          rw [List.map_cons, List.map_cons, Url.joinPairs_cons_cons, Url.joinPairs_cons_cons,
            phpStripslashes_append_sep (by decide), ih, phpStripslashes_append_sep (by decide)]
          rfl

/-- What is found at the start of a stripped text, without the stripped characters, is found
    at the start of the text. -/
theorem prefix_of_phpStripslashes {needle t : PyStr} (hneedle : ∀ c ∈ needle, isSlashed c = false)
    (h : needle <+: phpStripslashes t) : needle <+: t := by
  induction t using phpStripslashes.induct generalizing needle with
  | case1 => exact h
  | case2 c => exact h
  | case3 c d rest hslash ih =>
      rw [phpStripslashes, if_pos hslash] at h
      rcases List.prefix_cons_iff.mp h with hnil | ⟨tail, htail, -⟩
      · rw [hnil]
        exact List.nil_prefix
      · have hd := hneedle d (htail ▸ List.mem_cons_self)
        rw [hslash.2] at hd
        cases hd
  | case4 c d rest hslash ih =>
      rw [phpStripslashes, if_neg hslash] at h
      rcases List.prefix_cons_iff.mp h with hnil | ⟨tail, htail, hrest⟩
      · rw [hnil]
        exact List.nil_prefix
      · rw [htail] at hneedle ⊢
        exact List.cons_prefix_cons.mpr
          ⟨rfl, ih (fun c hc => hneedle c (List.mem_cons_of_mem _ hc)) hrest⟩

/-- Stripping slashes makes no text that holds none of the stripped characters. -/
theorem infix_of_phpStripslashes {needle t : PyStr} (hneedle : ∀ c ∈ needle, isSlashed c = false)
    (h : needle <:+: phpStripslashes t) : needle <:+: t := by
  induction t using phpStripslashes.induct with
  | case1 => exact h
  | case2 c => exact h
  | case3 c d rest hslash ih =>
      rw [phpStripslashes, if_pos hslash] at h
      rcases List.infix_cons_iff.mp h with hprefix | htail
      · rcases List.prefix_cons_iff.mp hprefix with hnil | ⟨tail, htail, -⟩
        · rw [hnil]
          exact List.nil_infix
        · have hd := hneedle d (htail ▸ List.mem_cons_self)
          rw [hslash.2] at hd
          cases hd
      · exact (ih htail).trans ((List.suffix_cons d rest).trans (List.suffix_cons c _)).isInfix
  | case4 c d rest hslash ih =>
      have hstart := prefix_of_phpStripslashes (t := c :: d :: rest) hneedle
      rw [phpStripslashes, if_neg hslash] at h hstart
      rcases List.infix_cons_iff.mp h with hprefix | htail
      · exact (hstart hprefix).isInfix
      · exact (ih htail).trans (List.suffix_cons c _).isInfix

/-! ## §3. The signed string. -/

/-- The names and texts that are signed, in order. -/
def signedItems (libs : EpayLibs) (params : List (PyStr × PyJson)) : List (PyStr × PyStr) :=
  (sortedItems (signParams params)).map fun item => (item.1, str libs item.2)

theorem mem_signedItems {params : List (PyStr × PyJson)} {name t : PyStr} :
    (name, t) ∈ signedItems libs params ↔ ∃ value, (name, value) ∈ params ∧
      isSignature name = false ∧ isBlank value = false ∧ str libs value = t := by
  unfold signedItems sortedItems signParams
  simp only [List.mem_map, List.mem_insertionSort, List.mem_filter, Prod.mk.injEq, Bool.and_eq_true,
    Bool.not_eq_true', Prod.exists]
  constructor
  · rintro ⟨name', value, ⟨hmem, hsig, hblank⟩, rfl, rfl⟩
    exact ⟨value, hmem, hsig, hblank, rfl⟩
  · rintro ⟨value, hmem, hsig, hblank, rfl⟩
    exact ⟨name, value, ⟨hmem, hsig, hblank⟩, rfl, rfl⟩

theorem paramStr_ok {params : List (PyStr × PyJson)} {t : PyStr}
    (h : paramStr libs params = .ok t) :
    t = Url.joinPairs ((signedItems libs params).map stripPair) := by
  unfold paramStr at h
  obtain ⟨form, hform, h⟩ := except_bind_ok h
  rw [← Except.ok.inj h, Url.unquotePlus_urlencode hform]
  exact phpStripslashes_joinPairs _

/-- **The signed string**: the stripped pairs, joined, and the key. -/
theorem signStr_ok {self : EPay} {params : List (PyStr × PyJson)} {t : PyStr}
    (h : signStr libs self params = .ok t) :
    ∃ key, self.key = .str key ∧
      t = Url.joinPairs ((signedItems libs params).map stripPair) ++ key := by
  unfold signStr at h
  obtain ⟨param_str, hparam, h⟩ := except_bind_ok h
  rw [paramStr_ok hparam] at h
  split at h
  · next key hkey => exact ⟨key, hkey, (Except.ok.inj h).symm⟩
  · cases h

/-- One signed string belongs to one joined text. -/
theorem joinPairs_eq_of_signStr {self : EPay} {params params' : List (PyStr × PyJson)} {t : PyStr}
    (h : signStr libs self params = .ok t) (h' : signStr libs self params' = .ok t) :
    Url.joinPairs ((signedItems libs params).map stripPair) =
      Url.joinPairs ((signedItems libs params').map stripPair) := by
  obtain ⟨key, hkey, ht⟩ := signStr_ok h
  obtain ⟨key', hkey', ht'⟩ := signStr_ok h'
  have hsame : key = key' := PyJson.str.inj (hkey.symm.trans hkey')
  rw [ht, hsame] at ht'
  exact List.append_cancel_right ht'

/-! ## §4. When the driver returns. -/

/-- No signed name or text holds a surrogate. -/
def Signable (libs : EpayLibs) (params : List (PyStr × PyJson)) : Prop :=
  ∀ item ∈ signedItems libs params, PyStr.Encodable item.1 ∧ PyStr.Encodable item.2

instance (params : List (PyStr × PyJson)) : Decidable (Signable libs params) :=
  inferInstanceAs (Decidable (∀ item ∈ signedItems libs params, _))

theorem mem_of_mem_phpStripslashes {t : PyStr} {c : CodePoint} (h : c ∈ phpStripslashes t) :
    c ∈ t := by
  induction t using phpStripslashes.induct with
  | case1 => exact h
  | case2 d => exact h
  | case3 d d' rest hslash ih =>
      rw [phpStripslashes, if_pos hslash] at h
      rcases List.mem_cons.mp h with heq | hmem
      · simp [heq]
      · simp [ih hmem]
  | case4 d d' rest hslash ih =>
      rw [phpStripslashes, if_neg hslash] at h
      rcases List.mem_cons.mp h with heq | hmem
      · simp [heq]
      · exact List.mem_cons_of_mem _ (ih hmem)

theorem paramStr_isOk_iff {params : List (PyStr × PyJson)} :
    (∃ t, paramStr libs params = .ok t) ↔ Signable libs params := by
  unfold Signable signedItems
  rw [← Url.urlencode_isOk_iff]
  constructor
  · rintro ⟨t, h⟩
    unfold paramStr at h
    obtain ⟨form, hform, -⟩ := except_bind_ok h
    exact ⟨form, hform⟩
  · rintro ⟨form, hform⟩
    unfold paramStr
    dsimp only
    rw [hform]
    exact ⟨_, rfl⟩

/-- A string that was read back from a form can be encoded again. -/
theorem paramStr_encodable {params : List (PyStr × PyJson)} {t : PyStr}
    (h : paramStr libs params = .ok t) : t.Encodable := by
  unfold paramStr at h
  obtain ⟨form, hform, h⟩ := except_bind_ok h
  have hread := Url.unquotePlus_urlencode hform
  unfold Url.urlencode at hform
  cases hpairs : ((sortedItems (signParams params)).map fun item =>
      (item.1, str libs item.2)).mapM Url.quotePair with
  | error e =>
      rw [hpairs] at hform
      cases hform
  | ok pairs =>
      have hjoined := Utf8.encode_isOk_iff.mp ⟨_, Url.mapM_quotePair_ok hpairs⟩
      intro c hc
      rw [← Except.ok.inj h, hread] at hc
      exact hjoined c (mem_of_mem_phpStripslashes hc)

/-- The key is a text that can be encoded. -/
def KeyText (self : EPay) : Prop := ∃ key, self.key = .str key ∧ key.Encodable

theorem generateSign_isOk_iff {self : EPay} {params : List (PyStr × PyJson)} :
    (∃ sign, generateSign libs self params = .ok sign) ↔ Signable libs params ∧ KeyText self := by
  rw [← paramStr_isOk_iff]
  unfold KeyText generateSign signStr
  constructor
  · rintro ⟨sign, h⟩
    obtain ⟨sign_str, hstr, h⟩ := except_bind_ok h
    obtain ⟨bytes, hbytes, -⟩ := except_bind_ok h
    obtain ⟨param_str, hparam, hstr⟩ := except_bind_ok hstr
    refine ⟨⟨param_str, hparam⟩, ?_⟩
    split at hstr
    · next key hkey =>
      refine ⟨key, hkey, fun c hc => ?_⟩
      have hall := Utf8.encode_isOk_iff.mp ⟨bytes, hbytes⟩
      rw [← Except.ok.inj hstr] at hall
      exact hall c (List.mem_append_right _ hc)
    · cases hstr
  · rintro ⟨⟨param_str, hparam⟩, key, hkey, hencodable⟩
    have hall : PyStr.Encodable (param_str ++ key) := by
      intro c hc
      exact (List.mem_append.mp hc).elim (paramStr_encodable hparam c) (hencodable c)
    obtain ⟨bytes, hbytes⟩ := Utf8.encode_isOk_iff.mpr hall
    rw [hparam, hkey]
    dsimp only [bind, Except.bind, pure, Except.pure]
    rw [hbytes]
    exact ⟨_, rfl⟩

/-- A text that a digest is compared with. -/
def asciiText : PyJson → Bool
  | .str b => b.isascii
  | _ => false

theorem hashEquals_isOk_iff {a : PyStr} (ha : a.isascii = true) (sign : PyJson) :
    (∃ same, hashEquals a sign = .ok same) ↔ asciiText sign = true := by
  cases sign with
  | str b =>
      unfold hashEquals asciiText
      rw [ha]
      by_cases hb : b.isascii = true
      · simp [hb]
      · simp [hb]
  | _ => simp [hashEquals, asciiText]

/-- The notification carries the signature of its own content, is for the merchant and tells
    of a payment. -/
def Authentic (libs : EpayLibs) (self : EPay) (params : PyDict) : Prop :=
  (∃ sign, generateSign libs self (verifyParams params) = .ok sign ∧
    params.getD (text "sign") (.str []) = .str sign) ∧
  (self.pid.truthy → str libs (params.getD (text "pid") (.str [])) = str libs self.pid) ∧
  (params.getD (text "trade_status") (.str [])).isText (text "TRADE_SUCCESS") = true

/-- The hundredfold of an amount rounds to a number of cents: the amount is finite and its
    magnitude is below `10 ^ 26 - 0.005`. -/
def CentsFit : Decimal → Prop
  | .finite c e =>
      200 * c.natAbs * 10 ^ e.toNat < (2 * 10 ^ Decimal.prec - 1) * 10 ^ (-e).toNat
  | _ => False

/-- An amount is converted exactly if it is no number or its hundredfold fits. -/
theorem moneyToCents_isOk_iff {money : PyJson} :
    (∃ cents, moneyToCents libs money = .ok cents) ↔
      ∀ amount, libs.decimal_of_str (str libs money) = some amount → CentsFit amount := by
  unfold moneyToCents
  cases libs.decimal_of_str (str libs money) with
  | none => simp
  | some amount =>
      simp only [Option.some.injEq, forall_eq']
      cases amount with
      | infinity => exact ⟨fun ⟨_, h⟩ => (by cases h), fun h => h.elim⟩
      | nan => exact ⟨fun ⟨_, h⟩ => (by cases h), fun h => h.elim⟩
      | finite c e =>
          have hhundred : 200 * c.natAbs = 2 * (c * 100).natAbs := by
            rw [Int.natAbs_mul, show Int.natAbs 100 = 100 from rfl]
            omega
          have hmul : (Decimal.finite c e).mul (.ofInt 100) = .ok (.fix (c * 100) e) := by
            show Except.ok (Decimal.fix (c * 100) (e + 0)) = _
            rw [add_zero]
          show _ ↔ 200 * c.natAbs * 10 ^ e.toNat < (2 * 10 ^ Decimal.prec - 1) * 10 ^ (-e).toNat
          rw [hhundred, ← Decimal.fix_quantizeUnit_isOk_iff, hmul]
          constructor
          · rintro ⟨cents, h⟩
            obtain ⟨hundredfold, hfix, h⟩ := except_bind_ok h
            obtain ⟨y, hy, -⟩ := except_bind_ok h
            exact ⟨y, Except.ok.inj hfix ▸ hy⟩
          · rintro ⟨y, hy⟩
            have hfinite := hy
            unfold Decimal.fix Decimal.quantizeUnit at hfinite
            dsimp only at hfinite
            split at hfinite
            · cases hfinite
            dsimp only [bind, Except.bind]
            rw [hy, ← Except.ok.inj hfinite]
            dsimp only [Decimal.isNegative, Decimal.toInt]
            split
            · exact ⟨_, rfl⟩
            · exact ⟨_, rfl⟩

/-- The driver reads what it compares and converts. -/
structure Verifiable (libs : EpayLibs) (driver : EPay) (params : PyDict) : Prop where
  key : KeyText driver
  signed : Signable libs (verifyParams params)
  sign : asciiText (params.getD (text "sign") (.str [])) = true
  money : Authentic libs driver params → ∀ amount,
    libs.decimal_of_str (str libs (params.getD (text "money") .null)) = some amount →
      CentsFit amount

/-- What is answered to an authentic notification. -/
def resultOf (params : PyDict) (cents : Option Int) : EpayNotifyResult :=
  if !(params.getD (text "out_trade_no") (.str [])).truthy ∨
      !(params.getD (text "trade_no") (.str [])).truthy ∨ cents.isNone then
    { success := false }
  else
    { success := true
      trade_no := params.getD (text "out_trade_no") (.str [])
      callback_no := params.getD (text "trade_no") (.str [])
      paid_amount := cents }

/-- A driver that has compared the signature goes on with an authentic notification only. -/
theorem verifyNotify_of_same {self : EPay} {params : PyDict} {sign : PyStr} {same : Bool}
    (hsign : generateSign libs self (verifyParams params) = .ok sign)
    (hsame : hashEquals sign (params.getD (text "sign") (.str [])) = .ok same) :
    verifyNotify libs self params =
      if same = true ∧
          (self.pid.truthy → str libs (params.getD (text "pid") (.str [])) = str libs self.pid) ∧
          (params.getD (text "trade_status") (.str [])).isText (text "TRADE_SUCCESS") = true then
        (moneyToCents libs (params.getD (text "money") .null)).map (resultOf params)
      else .ok { success := false } := by
  unfold verifyNotify
  dsimp only
  rw [hsign]
  dsimp only [bind, Except.bind]
  rw [hsame]
  dsimp only
  cases same with
  | false => simp [pure, Except.pure]
  | true =>
      by_cases hpid : self.pid.truthy ∧
          str libs (params.getD (text "pid") (.str [])) ≠ str libs self.pid
      · have hforeign : ¬(self.pid.truthy →
            str libs (params.getD (text "pid") (.str [])) = str libs self.pid) :=
          fun h => hpid.2 (h hpid.1)
        rw [if_neg (by decide), if_pos hpid, if_neg fun h => hforeign h.2.1]
        rfl
      have hown : self.pid.truthy →
          str libs (params.getD (text "pid") (.str [])) = str libs self.pid :=
        fun h => not_not.mp fun hne => hpid ⟨h, hne⟩
      by_cases hstatus :
          (params.getD (text "trade_status") (.str [])).isText (text "TRADE_SUCCESS") = true
      · rw [if_neg (by decide), if_neg hpid, if_neg (by simp [hstatus]),
          if_pos ⟨rfl, hown, hstatus⟩]
        cases moneyToCents libs (params.getD (text "money") .null) with
        | error e => rfl
        | ok cents =>
            unfold resultOf
            dsimp only [Except.map]
            split <;> rfl
      · rw [if_neg (by decide), if_neg hpid, if_pos (by simp [hstatus]),
          if_neg fun h => hstatus h.2.2]
        rfl

/-- The digests that the driver compares are written in ASCII. -/
def AsciiDigests (libs : EpayLibs) : Prop := ∀ data, (libs.md5_hexdigest data).isascii = true

theorem generateSign_isascii (hascii : AsciiDigests libs) {self : EPay}
    {params : List (PyStr × PyJson)} {sign : PyStr} (h : generateSign libs self params = .ok sign) :
    sign.isascii = true := by
  unfold generateSign at h
  obtain ⟨sign_str, -, h⟩ := except_bind_ok h
  obtain ⟨bytes, -, h⟩ := except_bind_ok h
  rw [← Except.ok.inj h]
  exact hascii bytes

/-- Equal texts are what the comparison tells. -/
theorem hashEquals_ok {a : PyStr} {sign : PyJson} {same : Bool}
    (h : hashEquals a sign = .ok same) : same = true ↔ sign = .str a := by
  unfold hashEquals at h
  split at h
  · next b =>
    split at h
    · rw [← Except.ok.inj h, decide_eq_true_iff, PyJson.str.injEq]
      exact eq_comm
    · cases h
  · cases h

/-- **What the driver returns**: the result of an authentic notification, a refusal of any
    other. -/
theorem verifyNotify_eq (hascii : AsciiDigests libs) {self : EPay} {params : PyDict}
    (hkey : KeyText self) (hsigned : Signable libs (verifyParams params))
    (hsign : asciiText (params.getD (text "sign") (.str [])) = true) :
    (Authentic libs self params → verifyNotify libs self params =
      (moneyToCents libs (params.getD (text "money") .null)).map (resultOf params)) ∧
    (¬Authentic libs self params → verifyNotify libs self params = .ok { success := false }) := by
  obtain ⟨generated, hgenerated⟩ := generateSign_isOk_iff.mpr ⟨hsigned, hkey⟩
  obtain ⟨same, hsame⟩ :=
    (hashEquals_isOk_iff (generateSign_isascii hascii hgenerated) _).mpr hsign
  rw [verifyNotify_of_same hgenerated hsame]
  constructor
  · rintro ⟨⟨sign, hown, hgiven⟩, hpid, hstatus⟩
    rw [hgenerated] at hown
    have htrue := (hashEquals_ok hsame).mpr (by rw [hgiven, Except.ok.inj hown])
    rw [if_pos ⟨htrue, hpid, hstatus⟩]
  · intro hforged
    rw [if_neg]
    rintro ⟨htrue, hpid, hstatus⟩
    exact hforged ⟨⟨generated, hgenerated, (hashEquals_ok hsame).mp htrue⟩, hpid, hstatus⟩

/-- **When the driver returns**: it reads what it compares and converts. -/
theorem verifyNotify_isOk_iff (hascii : AsciiDigests libs) {self : EPay} {params : PyDict} :
    (∃ result, verifyNotify libs self params = .ok result) ↔ Verifiable libs self params := by
  constructor
  · rintro ⟨result, h⟩
    have hread := h
    unfold verifyNotify at hread
    dsimp only at hread
    obtain ⟨generated, hgenerated, hread⟩ := except_bind_ok hread
    obtain ⟨same, hsame, -⟩ := except_bind_ok hread
    obtain ⟨hsigned, hkey⟩ := generateSign_isOk_iff.mp ⟨generated, hgenerated⟩
    have hsign :=
      (hashEquals_isOk_iff (generateSign_isascii hascii hgenerated) _).mp ⟨same, hsame⟩
    refine ⟨hkey, hsigned, hsign, fun hauthentic => moneyToCents_isOk_iff.mp ?_⟩
    rw [(verifyNotify_eq hascii hkey hsigned hsign).1 hauthentic] at h
    cases hcents : moneyToCents libs (params.getD (text "money") .null) with
    | error e =>
        rw [hcents] at h
        cases h
    | ok cents => exact ⟨cents, rfl⟩
  · rintro ⟨hkey, hsigned, hsign, hmoney⟩
    obtain ⟨hgenuine, hforged⟩ := verifyNotify_eq hascii hkey hsigned hsign
    by_cases hauthentic : Authentic libs self params
    · obtain ⟨cents, hcents⟩ := moneyToCents_isOk_iff.mpr (hmoney hauthentic)
      rw [hgenuine hauthentic, hcents]
      exact ⟨_, rfl⟩
    · exact ⟨_, hforged hauthentic⟩

end EPay

end PyBoard
