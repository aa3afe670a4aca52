/-
  PyBoard.Python.Url — the form encoding of `urllib.parse`.

  A text is encoded byte by byte; what is encoded is ASCII, and reading it back undoes
  the encoding of every name and value at once, separators in them or not.

  Main result: `unquotePlus_urlencode`.
-/
import PyBoard.Python.Text

namespace PyBoard.Url

/-! ## §1. Encoding. -/

/-- `_ALWAYS_SAFE`: letters, digits and four marks. -/
def isSafe (b : Nat) : Bool :=
  (0x30 ≤ b && b ≤ 0x39) || (0x41 ≤ b && b ≤ 0x5A) || (0x61 ≤ b && b ≤ 0x7A) ||
    b = 0x5F || b = 0x2E || b = 0x2D || b = 0x7E

/-- The digit of a number below sixteen. -/
def hexDigit (n : Nat) : Nat := if n < 10 then 0x30 + n else 0x37 + n

/-- A byte as `quote_plus` writes it. -/
def quoteByte (b : Nat) : List Nat :=
  if b = 0x20 then [0x2B]
  else if isSafe b then [b]
  else [0x25, hexDigit (b / 16), hexDigit (b % 16)]

/-- `quote_plus(text)`, as ASCII codes. -/
def quotePlus (text : PyStr) : Except PyExc (List Nat) :=
  (Utf8.encode text).map fun bytes => bytes.flatMap quoteByte

/-- `quote_plus(name) + "=" + quote_plus(value)`. -/
def quotePair (item : PyStr × PyStr) : Except PyExc (List Nat) := do
  let name ← quotePlus item.1
  let value ← quotePlus item.2
  return name ++ 0x3D :: value

/-- `urlencode(items)`. -/
def urlencode (items : List (PyStr × PyStr)) : Except PyExc (List Nat) :=
  (items.mapM quotePair).map fun pairs => [0x26].intercalate pairs

/-! ## §2. Decoding. -/

/-- The value of a digit, in either case. -/
def hexValue (c : Nat) : Option Nat :=
  if 0x30 ≤ c ∧ c ≤ 0x39 then some (c - 0x30)
  else if 0x41 ≤ c ∧ c ≤ 0x46 then some (c - 0x37)
  else if 0x61 ≤ c ∧ c ≤ 0x66 then some (c - 0x57)
  else none

/-- `_hextobyte`. -/
def hexByte (h l : Nat) : Option Nat :=
  match hexValue h, hexValue l with
  | some x, some y => some (16 * x + y)
  | _, _ => none

/-- `unquote_to_bytes`. -/
def unquoteToBytes : List Nat → List Nat
  | 0x25 :: h :: l :: rest =>
      match hexByte h l with
      | some b => b :: unquoteToBytes rest
      | none => 0x25 :: unquoteToBytes (h :: l :: rest)
  | b :: rest => b :: unquoteToBytes rest
  | [] => []

/-- `text.replace("+", " ")`. -/
def plusToSpace (text : List Nat) : List Nat := text.map fun c => if c = 0x2B then 0x20 else c

/-- `unquote_plus(text)` of an ASCII text. -/
def unquotePlus (text : List Nat) : PyStr :=
  Utf8.decodeReplace (unquoteToBytes (plusToSpace text))

/-! ## §3. The round trip. -/

/-- `name=value&...` without any encoding. -/
def joinPairs (items : List (PyStr × PyStr)) : PyStr :=
  [0x26].intercalate (items.map fun item => item.1 ++ 0x3D :: item.2)

theorem hexValue_hexDigit : ∀ n < 16, hexValue (hexDigit n) = some n := by
  decide

theorem hexByte_hexDigit {b : Nat} (h : b < 256) :
    hexByte (hexDigit (b / 16)) (hexDigit (b % 16)) = some b := by
  unfold hexByte
  rw [hexValue_hexDigit (b / 16) (by omega), hexValue_hexDigit (b % 16) (by omega)]
  show some (16 * (b / 16) + b % 16) = some b
  rw [Nat.div_add_mod]

theorem hexDigit_ne_plus : ∀ n < 16, hexDigit n ≠ 0x2B := by
  decide

theorem isSafe_ne {b : Nat} (h : isSafe b = true) : b ≠ 0x2B ∧ b ≠ 0x25 := by
  simp only [isSafe, Bool.or_eq_true, Bool.and_eq_true, decide_eq_true_eq] at h
  omega

theorem unquoteToBytes_cons {b : Nat} (h : b ≠ 0x25) (rest : List Nat) :
    unquoteToBytes (b :: rest) = b :: unquoteToBytes rest := by
  rw [unquoteToBytes.eq_def]
  split
  · next heq =>
    injection heq with hb
    exact absurd hb h
  · next heq =>
    injection heq with hb hrest
    rw [hb, hrest]
  · next heq => cases heq

theorem plusToSpace_append (l l' : List Nat) :
    plusToSpace (l ++ l') = plusToSpace l ++ plusToSpace l' := List.map_append

/-- A byte is read back from what it is written as. -/
theorem unquoteToBytes_quoteByte {b : Nat} (h : b < 256) (rest : List Nat) :
    unquoteToBytes (plusToSpace (quoteByte b) ++ rest) = b :: unquoteToBytes rest := by
  unfold quoteByte
  split
  · next hspace =>
    rw [hspace]
    exact unquoteToBytes_cons (by decide) rest
  split
  · next hsafe =>
    obtain ⟨hplus, hpercent⟩ := isSafe_ne hsafe
    have hsame : plusToSpace [b] = [b] := by simp [plusToSpace, hplus]
    rw [hsame, List.singleton_append]
    exact unquoteToBytes_cons hpercent rest
  · have hhigh := hexDigit_ne_plus (b / 16) (by omega)
    have hlow := hexDigit_ne_plus (b % 16) (by omega)
    have hsame : plusToSpace [0x25, hexDigit (b / 16), hexDigit (b % 16)] =
        [0x25, hexDigit (b / 16), hexDigit (b % 16)] := by
      simp [plusToSpace, hhigh, hlow]
    rw [hsame]
    show unquoteToBytes (0x25 :: hexDigit (b / 16) :: hexDigit (b % 16) :: rest) = _
    rw [unquoteToBytes, hexByte_hexDigit h]

theorem unquoteToBytes_quoteBytes {bytes : List Nat} (h : ∀ b ∈ bytes, b < 256)
    (rest : List Nat) : unquoteToBytes (plusToSpace (bytes.flatMap quoteByte) ++ rest) =
      bytes ++ unquoteToBytes rest := by
  induction bytes with
  | nil => rfl
  | cons b bytes ih =>
      rw [List.flatMap_cons, plusToSpace_append, List.append_assoc,
        unquoteToBytes_quoteByte (h b List.mem_cons_self),
        ih fun b' hb' => h b' (List.mem_cons_of_mem _ hb')]
      rfl

/-- Texts are encoded one after the other. -/
theorem encode_append {a b : PyStr} {bytes bytes' : List Nat} (ha : Utf8.encode a = .ok bytes)
    (hb : Utf8.encode b = .ok bytes') : Utf8.encode (a ++ b) = .ok (bytes ++ bytes') := by
  unfold Utf8.encode at ha hb ⊢
  split at ha
  · cases ha
  next hany =>
  split at hb
  · cases hb
  next hany' =>
  rw [List.any_append, Bool.eq_false_iff.mpr hany, Bool.eq_false_iff.mpr hany']
  rw [← Except.ok.inj ha, ← Except.ok.inj hb, List.flatMap_append]
  rfl

theorem encode_cons_ascii {b : PyStr} {bytes : List Nat} (c : CodePoint) (hc : c.val < 0x80)
    (hb : Utf8.encode b = .ok bytes) : Utf8.encode (c :: b) = .ok (c.val :: bytes) := by
  have hone : Utf8.encode [c] = .ok [c.val] := by
    have hs : isSurrogate c.val = false := by
      simp [isSurrogate]
      omega
    have hpoint : Utf8.encodePoint c.val = [c.val] := by
      unfold Utf8.encodePoint
      rw [if_pos hc]
    simp [Utf8.encode, hs, hpoint]
  exact encode_append hone hb

/-- One pair is read back as the bytes of its text. -/
theorem quotePair_ok {item : PyStr × PyStr} {pair : List Nat} (h : quotePair item = .ok pair)
    (rest : List Nat) : ∃ bytes, Utf8.encode (item.1 ++ 0x3D :: item.2) = .ok bytes ∧
      unquoteToBytes (plusToSpace pair ++ rest) = bytes ++ unquoteToBytes rest := by
  unfold quotePair at h
  obtain ⟨name, hname, h⟩ := except_bind_ok h
  obtain ⟨value, hvalue, h⟩ := except_bind_ok h
  unfold quotePlus at hname hvalue
  cases hn : Utf8.encode item.1 with
  | error e =>
      rw [hn] at hname
      cases hname
  | ok nameBytes =>
  cases hv : Utf8.encode item.2 with
  | error e =>
      rw [hv] at hvalue
      cases hvalue
  | ok valueBytes =>
  rw [hn] at hname
  rw [hv] at hvalue
  refine ⟨nameBytes ++ 0x3D :: valueBytes, ?_, ?_⟩
  · exact encode_append hn (encode_cons_ascii 0x3D (by decide) hv)
  · rw [← Except.ok.inj h, ← Except.ok.inj hname, ← Except.ok.inj hvalue, plusToSpace_append,
      List.append_assoc, unquoteToBytes_quoteBytes (Utf8.encode_lt hn)]
    show nameBytes ++ unquoteToBytes (0x3D :: (plusToSpace (valueBytes.flatMap quoteByte) ++ rest))
      = _
    rw [unquoteToBytes_cons (by decide), unquoteToBytes_quoteBytes (Utf8.encode_lt hv)]
    simp

/-- The pairs are read back as the bytes of the joined text. -/
theorem mapM_quotePair_ok {items : List (PyStr × PyStr)} {pairs : List (List Nat)}
    (h : items.mapM quotePair = .ok pairs) :
    Utf8.encode (joinPairs items) =
      .ok (unquoteToBytes (plusToSpace ([0x26].intercalate pairs))) := by
  have hall := forall₂_of_mapM_ok h
  clear h
  unfold joinPairs
  induction hall with
  | nil => rfl
  | @cons item pair items pairs hpair hrest ih =>
      cases hrest with
      | nil =>
          obtain ⟨bytes, hbytes, hread⟩ := quotePair_ok hpair []
          have hone : [0x26].intercalate [pair] = pair := by simp [List.intercalate]
          have hone' : ([0x26] : PyStr).intercalate ([item].map fun i => i.1 ++ 0x3D :: i.2) =
              item.1 ++ 0x3D :: item.2 := by simp [List.intercalate]
          rw [List.append_nil] at hread
          rw [hone, hone', hbytes, hread, unquoteToBytes, List.append_nil]
      | @cons item' pair' items pairs hpair' hrest =>
          rw [List.intercalate_cons_cons, List.map_cons, List.map_cons, List.intercalate_cons_cons,
            List.append_assoc pair, List.append_assoc (item.1 ++ 0x3D :: item.2),
            plusToSpace_append]
          obtain ⟨bytes, hbytes, hread⟩ := quotePair_ok hpair
            (plusToSpace ([0x26] ++ [0x26].intercalate (pair' :: pairs)))
          have hamp : plusToSpace ([0x26] ++ [0x26].intercalate (pair' :: pairs)) =
              0x26 :: plusToSpace ([0x26].intercalate (pair' :: pairs)) := rfl
          rw [hread, hamp, unquoteToBytes_cons (by decide)]
          exact encode_append hbytes (encode_cons_ascii 0x26 (by decide) ih)

/-- **Reading back a form gives its names and values, joined.** -/
theorem unquotePlus_urlencode {items : List (PyStr × PyStr)} {text : List Nat}
    (h : urlencode items = .ok text) : unquotePlus text = joinPairs items := by
  unfold urlencode at h
  cases hpairs : items.mapM quotePair with
  | error e =>
      rw [hpairs] at h
      cases h
  | ok pairs =>
      rw [hpairs] at h
      rw [← Except.ok.inj h]
      exact Utf8.decodeReplace_encode (mapM_quotePair_ok hpairs)

/-! ## §4. What is encoded. -/

/-- A text has a form encoding exactly when it holds no surrogate. -/
theorem quotePlus_isOk_iff (text : PyStr) :
    (∃ quoted, quotePlus text = .ok quoted) ↔ text.Encodable := by
  rw [← Utf8.encode_isOk_iff]
  unfold quotePlus
  cases Utf8.encode text with
  | error e =>
      constructor
      · rintro ⟨_, h⟩
        cases h
      · rintro ⟨_, h⟩
        cases h
  | ok bytes => exact ⟨fun _ => ⟨bytes, rfl⟩, fun _ => ⟨_, rfl⟩⟩

theorem quotePair_isOk_iff (item : PyStr × PyStr) :
    (∃ pair, quotePair item = .ok pair) ↔ PyStr.Encodable item.1 ∧ PyStr.Encodable item.2 := by
  rw [← quotePlus_isOk_iff, ← quotePlus_isOk_iff]
  constructor
  · rintro ⟨pair, h⟩
    unfold quotePair at h
    obtain ⟨name, hname, h⟩ := except_bind_ok h
    obtain ⟨value, hvalue, -⟩ := except_bind_ok h
    exact ⟨⟨name, hname⟩, ⟨value, hvalue⟩⟩
  · rintro ⟨⟨name, hname⟩, ⟨value, hvalue⟩⟩
    unfold quotePair
    rw [hname, hvalue]
    exact ⟨_, rfl⟩

/-- **A form is written exactly when no name and no value holds a surrogate.** -/
theorem urlencode_isOk_iff (items : List (PyStr × PyStr)) :
    (∃ form, urlencode items = .ok form) ↔
      ∀ item ∈ items, PyStr.Encodable item.1 ∧ PyStr.Encodable item.2 := by
  have hpairs : (∃ form, urlencode items = .ok form) ↔
      ∃ pairs, items.mapM quotePair = .ok pairs := by
    unfold urlencode
    cases items.mapM quotePair with
    | error e =>
        constructor
        · rintro ⟨_, h⟩
          cases h
        · rintro ⟨_, h⟩
          cases h
    | ok pairs => exact ⟨fun _ => ⟨pairs, rfl⟩, fun _ => ⟨_, rfl⟩⟩
  rw [hpairs, mapM_isOk_iff]
  exact forall₂_congr fun item _ => quotePair_isOk_iff item

end PyBoard.Url
