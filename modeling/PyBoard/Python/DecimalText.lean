/-
  PyBoard.Python.DecimalText — quotients of decimals, and their notation.

  A quotient that is exact is given the exponent nearest to the ideal one, `normalize`
  takes all zeros off the end of a coefficient, and the format `f` writes a number without
  an exponent.  `Decimal(text)` reads digits of every script, with a point and an exponent.

  Main results:
    * `normalize_div_hundred` — a number of cents in the unit.
    * `ofStr_point`, `ofStr_integer` — the digits of a number are read back.
-/
import Mathlib.Data.List.TakeWhile
import Mathlib.Data.Nat.Find
import PyBoard.Python.Decimal
import PyBoard.Python.Text

namespace PyBoard.Decimal

/-! ## §1. Operations. -/

/-- The number of zeros at the end of a coefficient. -/
def trailingZeros (n : Nat) : Nat := Nat.findGreatest (fun k => 10 ^ k ∣ n) (digits n)

/-- The same number with at most `limit` zeros less at the end of its coefficient. -/
def strip (c e : Int) (limit : Nat) : Decimal :=
  let k := min (trailingZeros c.natAbs) limit
  .finite (c / 10 ^ k) (e + k)

/-- A finite number in the precision of the context. -/
def round : Decimal → Decimal
  | .finite c e => fix c e
  | x => x

/-- `x / y`; a quotient with a remainder is made odd in a digit that will be dropped. -/
def div : Decimal → Decimal → Except PyExc Decimal
  | .finite c e, .finite c' e' =>
      if c' = 0 then .error (.other (if c = 0 then "DivisionUndefined" else "DivisionByZero"))
      else if c = 0 then .ok (.finite 0 (e - e'))
      else
        let shift : Int := digits c'.natAbs - digits c.natAbs + prec + 1
        let op1 := c.natAbs * 10 ^ shift.toNat
        let op2 := c'.natAbs * 10 ^ (-shift).toNat
        let coeff : Int := (op1 / op2 : Nat)
        let sign := c.sign * c'.sign
        let exp := e - e' - shift
        if op1 % op2 ≠ 0 then
          .ok (fix (sign * if coeff % 5 = 0 then coeff + 1 else coeff) exp)
        else .ok (round (strip (sign * coeff) exp (e - e' - exp).toNat))
  | .nan, _ | _, .nan => .ok .nan
  | .infinity, .infinity => .error (.other "InvalidOperation")
  | .infinity, _ => .ok .infinity
  | _, .infinity => .ok (.finite 0 0)

/-- The greatest exponent of the context. -/
def Emax : Int := 999999

/-- `x.normalize()`. -/
def normalize (x : Decimal) : Decimal :=
  match round x with
  | .finite c e => if c = 0 then .finite 0 0 else strip c e (Emax - e).toNat
  | x => x

/-- The last `k` digits of a number. -/
def lastDigits (n k : Nat) : String :=
  let ds := Nat.toDigits 10 (n % 10 ^ k)
  String.ofList (List.replicate (k - ds.length) '0' ++ ds)

/-- `format(x, "f")`. -/
def formatF : Decimal → String
  | .finite c e =>
      let k := (-e).toNat
      let n := c.natAbs * 10 ^ e.toNat
      (if c < 0 then "-" else "") ++ Nat.repr (n / 10 ^ k) ++
        if k = 0 then "" else "." ++ lastDigits n k
  | .infinity => "Infinity"
  | .nan => "NaN"

example : (div (.ofInt 1050) (.ofInt 100)).map (fun x => x.normalize.formatF) = .ok "10.5" ∧
    (div (.ofInt 5) (.ofInt 100)).map (fun x => x.normalize.formatF) = .ok "0.05" := by
  decide +kernel

/-! `Decimal(text)`. -/

/-- `str.isspace` of one character. -/
def isSpace (c : CodePoint) : Bool :=
  (9 ≤ c.val && c.val ≤ 13) || (28 ≤ c.val && c.val ≤ 32) || c.val = 0x85 || c.val = 0xA0 ||
    c.val = 0x1680 || (0x2000 ≤ c.val && c.val ≤ 0x200A) || c.val = 0x2028 || c.val = 0x2029 ||
    c.val = 0x202F || c.val = 0x205F || c.val = 0x3000

/-- `text.strip().replace("_", "")`. -/
def stripped (text : PyStr) : PyStr :=
  (((text.dropWhile isSpace).reverse.dropWhile isSpace).reverse).filter fun c => c.val ≠ 0x5F

section

-- the decimal digits of the other scripts
variable (unicode : CodePoint → Option Nat)

/-- The value of a digit. -/
def digitOf (c : CodePoint) : Option Nat :=
  if c.val < 128 then if 48 ≤ c.val ∧ c.val < 58 then some (c.val - 48) else none
  else unicode c

def isDigit (c : CodePoint) : Bool := (digitOf unicode c).isSome

/-- The number that digits write. -/
def numeral (text : PyStr) : Nat :=
  (text.filterMap (digitOf unicode)).foldl (fun n d => 10 * n + d) 0

/-- A sign, and what follows it. -/
def signed : PyStr → Int × PyStr
  | [] => (1, [])
  | c :: rest =>
      if c.val = 0x2D then (-1, rest) else if c.val = 0x2B then (1, rest) else (1, c :: rest)

/-- `(E(?P<exp>[-+]?\d+))?\Z`. -/
def exponentPart : PyStr → Option Int
  | [] => some 0
  | c :: rest =>
      let (sign, ds) := signed rest
      if (c.val = 0x45 ∨ c.val = 0x65) ∧ ds ≠ [] ∧ ds.all (isDigit unicode) then
        some (sign * numeral unicode ds)
      else none

/-- `(\.(?P<frac>\d*))?`, and what follows it. -/
def fractionPart : PyStr → PyStr × PyStr
  | [] => ([], [])
  | c :: rest =>
      if c.val = 0x2E then (rest.takeWhile (isDigit unicode), rest.dropWhile (isDigit unicode))
      else ([], c :: rest)

/-- A letter of the names below, without regard to case. -/
def lower (c : CodePoint) : Nat := if 0x41 ≤ c.val ∧ c.val ≤ 0x5A then c.val + 32 else c.val

/-- `Inf(inity)?` and `s?NaN(\d*)`: a signaling NaN raises what a quiet one does here. -/
def special (text : PyStr) : Option Decimal :=
  let name := String.ofList ((text.takeWhile fun c => !isDigit unicode c).map
    fun c => Char.ofNat (lower c))
  let rest := text.dropWhile fun c => !isDigit unicode c
  if (name = "inf" ∨ name = "infinity") ∧ rest = [] then some .infinity
  else if (name = "nan" ∨ name = "snan") ∧ rest.all (isDigit unicode) then some .nan
  else none

/-- The exponents that a number of a text may have: `MIN_ETINY` to `MAX_EMAX`. -/
def inRange (n : Nat) (e : Int) : Bool :=
  -1999999999999999997 ≤ e && e + digits n ≤ 1000000000000000000

/-- `Decimal(text)`; `none` is InvalidOperation. -/
def ofStr (text : PyStr) : Option Decimal :=
  let (sign, number) := signed (stripped text)
  let int := number.takeWhile (isDigit unicode)
  let (frac, rest) := fractionPart unicode (number.dropWhile (isDigit unicode))
  if int ++ frac = [] then special unicode number
  else
    match exponentPart unicode rest with
    | none => none
    | some exp =>
        let n := numeral unicode (int ++ frac)
        let e := exp - frac.length
        if inRange n e then some (.finite (sign * n) e) else none

end

example : let read := fun s => ofStr (fun _ => none) (PyStr.ofString s)
    read " 1_0.50 " = some (.finite 1050 (-2)) ∧ read "-.5e+3" = some (.finite (-5) 2) ∧
    read "Infinity" = some .infinity ∧ read "sNaN12" = some .nan ∧ read "1e" = none ∧
    read "." = none := by
  decide +kernel

/-! ## §2. Zeros at the end. -/

theorem le_trailingZeros_iff {n : Nat} (hn : 0 < n) (k : Nat) :
    k ≤ trailingZeros n ↔ 10 ^ k ∣ n := by
  have hbound : ∀ j, 10 ^ j ∣ n → j ≤ digits n := by
    intro j hj
    by_contra hlt
    have hle := Nat.le_of_dvd hn hj
    have hdigits := (digits_le_iff (show 0 < j by omega)).mp (show digits n ≤ j by omega)
    omega
  constructor
  · intro hk
    have hspec : 10 ^ trailingZeros n ∣ n :=
      Nat.findGreatest_spec (P := fun k => 10 ^ k ∣ n) (Nat.zero_le _) (by simp)
    exact (Nat.pow_dvd_pow 10 hk).trans hspec
  · intro hk
    exact Nat.le_findGreatest (hbound k hk) hk

theorem pow_trailingZeros_dvd {n : Nat} (hn : 0 < n) : 10 ^ trailingZeros n ∣ n :=
  (le_trailingZeros_iff hn _).mp le_rfl

theorem trailingZeros_mul_pow {n : Nat} (hn : 0 < n) (j : Nat) :
    trailingZeros (n * 10 ^ j) = trailingZeros n + j := by
  have hpos : 0 < n * 10 ^ j := Nat.mul_pos hn (Nat.pow_pos (by decide))
  refine le_antisymm ?_ ?_
  · -- more zeros would be zeros of `n`
    by_contra hlt
    have hdvd := (le_trailingZeros_iff hpos (trailingZeros n + 1 + j)).mp (by omega)
    rw [Nat.pow_add] at hdvd
    have hn' := Nat.dvd_of_mul_dvd_mul_right (Nat.pow_pos (by decide)) hdvd
    have := (le_trailingZeros_iff hn _).mpr hn'
    omega
  · rw [le_trailingZeros_iff hpos, Nat.pow_add]
    exact Nat.mul_dvd_mul_right (pow_trailingZeros_dvd hn) _

/-! ## §3. Cents in the unit. -/

theorem roundHalfEven_zero (n : Nat) : roundHalfEven n 0 = n := by
  unfold roundHalfEven
  rw [Nat.pow_zero, Nat.div_one, Nat.mod_one]
  rfl

/-- A result of few digits is not rounded. -/
theorem fix_of_lt {n : Nat} {e : Int} (h : n < 10 ^ prec) : fix n e = .finite n e := by
  have hfew : digits n ≤ prec := (digits_le_iff (by decide)).mpr h
  unfold fix
  rw [Int.natAbs_natCast, Nat.sub_eq_zero_of_le hfew]
  dsimp only
  rw [roundHalfEven_zero]
  by_cases hn : n = 0
  · simp [hn]
  · rw [Int.sign_natCast_of_ne_zero hn]
    simp

theorem strip_natCast (n : Nat) (e : Int) (limit : Nat) :
    strip n e limit = .finite (n / 10 ^ min (trailingZeros n) limit : Nat)
      (e + (min (trailingZeros n) limit : Nat)) := by
  unfold strip
  rw [Int.natAbs_natCast]
  dsimp only
  norm_cast

theorem trailingZeros_le {n : Nat} : trailingZeros n ≤ digits n := Nat.findGreatest_le _

theorem trailingZeros_div_pow {n j : Nat} (hn : 0 < n) (hj : j ≤ trailingZeros n) :
    trailingZeros (n / 10 ^ j) = trailingZeros n - j := by
  obtain ⟨m, rfl⟩ := (le_trailingZeros_iff hn j).mp hj
  have hm : 0 < m := Nat.pos_of_mul_pos_left hn
  rw [Nat.mul_comm, trailingZeros_mul_pow hm, Nat.mul_div_cancel _ (Nat.pow_pos (by decide))]
  omega

/-- The quotient by a hundred: two zeros at most are taken off. -/
theorem ofInt_div_hundred {c : Nat} (hc : 0 < c) (hlt : c < 10 ^ prec) :
    div (.ofInt c) (.ofInt 100) =
      .ok (.finite (c / 10 ^ min (trailingZeros c) 2 : Nat)
        ((min (trailingZeros c) 2 : Nat) - 2)) := by
  have hd : digits c ≤ 28 := (digits_le_iff (by decide)).mpr hlt
  have hd' : 0 < digits c := Nat.length_toDigits_pos
  have hhundred : digits 100 = 3 := by decide +kernel
  obtain ⟨j, hj⟩ : ∃ j, digits c + j = 30 := ⟨30 - digits c, by omega⟩
  have hshift : ((digits 100 : Nat) : Int) - digits c + prec + 1 = (j + 2 : Nat) := by
    rw [hhundred, show prec = 28 from rfl]
    omega
  unfold div ofInt
  dsimp only
  rw [if_neg (by decide), if_neg (by omega), Int.natAbs_natCast,
    show Int.natAbs 100 = 100 from rfl, hshift]
  have hop : c * 10 ^ ((j + 2 : Nat) : Int).toNat = 100 * (c * 10 ^ j) := by
    rw [Int.toNat_natCast, Nat.pow_add]
    ring
  rw [hop, show (-((j + 2 : Nat) : Int)).toNat = 0 by omega, Nat.pow_zero, Nat.mul_one,
    Nat.mul_mod_right, Nat.mul_div_cancel_left _ (by decide : 0 < 100), if_neg (by simp),
    Int.sign_natCast_of_ne_zero (by omega), show Int.sign 100 = 1 from rfl, Int.one_mul,
    Int.one_mul,
    strip_natCast, trailingZeros_mul_pow hc]
  have hlimit : (0 - 0 - (0 - 0 - ((j + 2 : Nat) : Int))).toNat = 2 + j := by omega
  have hmin : min (trailingZeros c + j) (2 + j) = min (trailingZeros c) 2 + j := by omega
  rw [hlimit, hmin, Nat.pow_add, Nat.mul_div_mul_right _ _ (Nat.pow_pos (by decide))]
  unfold round
  dsimp only
  have hsmall : c / 10 ^ min (trailingZeros c) 2 < 10 ^ prec :=
    Nat.lt_of_le_of_lt (Nat.div_le_self _ _) hlt
  rw [fix_of_lt hsmall]
  have hexp : (0 - 0 - ((j + 2 : Nat) : Int)) + ((min (trailingZeros c) 2 + j : Nat) : Int) =
      ((min (trailingZeros c) 2 : Nat) : Int) - 2 := by omega
  rw [hexp]

/-- **Cents in the unit**: all zeros are taken off, and the exponent counts them. -/
theorem normalize_div_hundred {c : Nat} (hc : 0 < c) (hlt : c < 10 ^ prec) :
    (div (.ofInt c) (.ofInt 100)).map normalize =
      .ok (.finite (c / 10 ^ trailingZeros c : Nat) (trailingZeros c - 2)) := by
  have hd : digits c ≤ 28 := (digits_le_iff (by decide)).mpr hlt
  have hz := trailingZeros_le (n := c)
  rw [ofInt_div_hundred hc hlt]
  obtain ⟨m, hm, hle⟩ : ∃ m, min (trailingZeros c) 2 = m ∧ m ≤ trailingZeros c :=
    ⟨_, rfl, Nat.min_le_left _ _⟩
  have hrest := trailingZeros_div_pow hc hle
  have hpos : 0 < c / 10 ^ m := by
    have hdvd := (le_trailingZeros_iff hc m).mp hle
    exact Nat.div_pos (Nat.le_of_dvd hc hdvd) (Nat.pow_pos (by decide))
  have hsmall : c / 10 ^ m < 10 ^ prec := Nat.lt_of_le_of_lt (Nat.div_le_self _ _) hlt
  rw [hm]
  show Except.ok (normalize _) = _
  unfold normalize round
  dsimp only
  rw [fix_of_lt hsmall]
  dsimp only
  rw [if_neg (by omega), strip_natCast, hrest]
  have hlimit : min (trailingZeros c - m) (Emax - ((m : Int) - 2)).toNat = trailingZeros c - m := by
    unfold Emax
    omega
  rw [hlimit, Nat.div_div_eq_div_mul, ← Nat.pow_add, Nat.add_sub_cancel' hle]
  congr 2
  omega

/-! ## §4. The digits of a number are read back. -/

section

variable {unicode : CodePoint → Option Nat}

theorem toNat_of_isDigit {c : Char} (hc : c.isDigit = true) : 48 ≤ c.toNat ∧ c.toNat < 58 := by
  obtain ⟨hlow, hhigh⟩ := Char.isDigit_iff_toNat.mp hc
  have hzero : '0'.toNat = 48 := rfl
  have hnine : '9'.toNat = 57 := rfl
  omega

theorem digitOf_ofChar {c : Char} (hc : c.isDigit = true) :
    digitOf unicode (.ofChar c) = some (c.toNat - 48) := by
  obtain ⟨hlow, hhigh⟩ := toNat_of_isDigit hc
  unfold digitOf CodePoint.ofChar
  dsimp only
  rw [if_pos (by omega), if_pos (by omega)]

theorem isDigit_ofChar {c : Char} (hc : c.isDigit = true) : isDigit unicode (.ofChar c) = true := by
  unfold isDigit
  rw [digitOf_ofChar hc]
  rfl

/-- Digits write the number that they are the digits of. -/
theorem numeral_map_ofChar {cs : List Char} (h : ∀ c ∈ cs, c.isDigit = true) :
    numeral unicode (cs.map .ofChar) = Nat.ofDigitChars 10 cs 0 := by
  have hdigits : (cs.map CodePoint.ofChar).filterMap (digitOf unicode) =
      cs.map fun c => c.toNat - 48 := by
    induction cs with
    | nil => rfl
    | cons c cs ih =>
        rw [List.map_cons, List.filterMap_cons, digitOf_ofChar (h c (by simp)), List.map_cons]
        dsimp only
        rw [ih fun c' hc' => h c' (List.mem_cons_of_mem _ hc')]
  unfold numeral
  rw [hdigits, Nat.ofDigitChars_eq_foldl, List.foldl_map]
  rfl

/-- A character that stays where it is, and is no sign. -/
def isPlain (c : CodePoint) : Bool := !isSpace c && c.val ≠ 0x5F && c.val ≠ 0x2B && c.val ≠ 0x2D

theorem isPlain_ofChar {c : Char} (hc : c.isDigit = true) : isPlain (.ofChar c) = true := by
  obtain ⟨hlow, hhigh⟩ := toNat_of_isDigit hc
  unfold isPlain isSpace CodePoint.ofChar
  dsimp only
  simp
  omega

theorem dropWhile_isSpace {text : PyStr} (h : ∀ c ∈ text, isPlain c = true) :
    text.dropWhile isSpace = text := by
  cases text with
  | nil => rfl
  | cons c text =>
      have hc := h c (by simp)
      unfold isPlain at hc
      rw [List.dropWhile_cons_of_neg]
      intro hspace
      simp [hspace] at hc

theorem signed_stripped {text : PyStr} (h : ∀ c ∈ text, isPlain c = true) :
    signed (stripped text) = (1, text) := by
  have hsame : stripped text = text := by
    unfold stripped
    rw [dropWhile_isSpace h, dropWhile_isSpace (fun c hc => h c (List.mem_reverse.mp hc)),
      List.reverse_reverse, List.filter_eq_self]
    intro c hc
    have := h c hc
    unfold isPlain at this
    simp only [Bool.and_eq_true] at this
    exact this.1.1.2
  rw [hsame]
  cases text with
  | nil => rfl
  | cons c text =>
      have hc := h c (by simp)
      unfold isPlain at hc
      simp only [Bool.and_eq_true, decide_eq_true_eq] at hc
      unfold signed
      dsimp only
      rw [if_neg hc.2, if_neg hc.1.2]

/-- A number is read up to its fraction, which ends the text. -/
theorem ofStr_digits {i f : List Char} {rest : PyStr} (hi : i ≠ [])
    (hdigits : ∀ c ∈ i ++ f, c.isDigit = true) (hplain : ∀ c ∈ rest, isPlain c = true)
    (hstop : ∀ c, rest.head? = some c → isDigit unicode c = false)
    (hrest : fractionPart unicode rest = (f.map .ofChar, []))
    (hrange : inRange (Nat.ofDigitChars 10 (i ++ f) 0) (-f.length) = true) :
    ofStr unicode (i.map .ofChar ++ rest) =
      some (.finite (Nat.ofDigitChars 10 (i ++ f) 0) (-f.length)) := by
  have hall : ∀ c ∈ i.map CodePoint.ofChar, isDigit unicode c = true := by
    intro c hc
    obtain ⟨c', hc', rfl⟩ := List.mem_map.mp hc
    exact isDigit_ofChar (hdigits c' (List.mem_append_left _ hc'))
  have hplain' : ∀ c ∈ i.map CodePoint.ofChar ++ rest, isPlain c = true := by
    intro c hc
    cases List.mem_append.mp hc with
    | inl hc =>
        obtain ⟨c', hc', rfl⟩ := List.mem_map.mp hc
        exact isPlain_ofChar (hdigits c' (List.mem_append_left _ hc'))
    | inr hc => exact hplain c hc
  have htake : rest.takeWhile (isDigit unicode) = [] ∧ rest.dropWhile (isDigit unicode) = rest := by
    cases rest with
    | nil => exact ⟨rfl, rfl⟩
    | cons c rest =>
        have hc := hstop c rfl
        rw [List.takeWhile_cons_of_neg (by simp [hc]), List.dropWhile_cons_of_neg (by simp [hc])]
        exact ⟨rfl, rfl⟩
  unfold ofStr
  rw [signed_stripped hplain']
  dsimp only
  rw [List.takeWhile_append_of_pos hall, List.dropWhile_append_of_pos hall, htake.1, htake.2,
    List.append_nil, hrest]
  dsimp only
  rw [if_neg (by simp [hi]), ← List.map_append, numeral_map_ofChar hdigits, List.length_map]
  show (if inRange _ (0 - (f.length : Int)) = true then _ else _) = _
  rw [Int.zero_sub, if_pos hrange, Int.one_mul]

/-- The point of a number. -/
def point : CodePoint := 0x2E

theorem ofStr_point {i f : List Char} (hi : i ≠ []) (hdigits : ∀ c ∈ i ++ f, c.isDigit = true)
    (hrange : inRange (Nat.ofDigitChars 10 (i ++ f) 0) (-f.length) = true) :
    ofStr unicode (i.map .ofChar ++ point :: f.map .ofChar) =
      some (.finite (Nat.ofDigitChars 10 (i ++ f) 0) (-f.length)) := by
  have hf : ∀ c ∈ f, c.isDigit = true := fun c hc => hdigits c (List.mem_append_right _ hc)
  have hall : ∀ c ∈ f.map CodePoint.ofChar, isDigit unicode c = true := by
    intro c hc
    obtain ⟨c', hc', rfl⟩ := List.mem_map.mp hc
    exact isDigit_ofChar (hf c' hc')
  have hrest : fractionPart unicode (point :: f.map .ofChar) = (f.map .ofChar, []) := by
    show (List.takeWhile _ _, List.dropWhile _ _) = _
    rw [List.takeWhile_eq_self_iff.mpr hall, List.dropWhile_eq_nil_iff.mpr hall]
  refine ofStr_digits hi hdigits ?_ ?_ hrest hrange
  · intro c hc
    cases List.mem_cons.mp hc with
    | inl hc =>
        rw [hc]
        decide +kernel
    | inr hc =>
        obtain ⟨c', hc', rfl⟩ := List.mem_map.mp hc
        exact isPlain_ofChar (hf c' hc')
  · intro c hc
    cases hc
    rfl

theorem ofStr_integer {i : List Char} (hi : i ≠ []) (hdigits : ∀ c ∈ i, c.isDigit = true)
    (hrange : inRange (Nat.ofDigitChars 10 i 0) 0 = true) :
    ofStr unicode (i.map .ofChar) = some (.finite (Nat.ofDigitChars 10 i 0) 0) := by
  have hread := @ofStr_digits unicode i [] [] hi (by simpa using hdigits) (by simp) (by simp) rfl
    (by simpa using hrange)
  simpa using hread

end

end PyBoard.Decimal
