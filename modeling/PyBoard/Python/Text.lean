/-
  PyBoard.Python.Text — the texts of Python as lists of code points.

  A `str` holds any code points, also the surrogates that no `Char` is, which is what
  `json.loads` makes of an escape such as `\ud800`.  UTF-8 has no bytes for them: encoding
  raises.  Decoding replaces what is no UTF-8, each longest start of a character at once.

  Main result: `decodeReplace_encode`, decoding reads back what was encoded.
-/
import Mathlib.Data.List.Infix
import PyBoard.Python.Value

namespace PyBoard

/-! ## §1. Texts. -/

instance neZero_code_points : NeZero 0x110000 := ⟨by decide⟩

/-- A code point. -/
abbrev CodePoint : Type := Fin 0x110000

/-- A `str`. -/
abbrev PyStr : Type := List CodePoint

theorem toNat_lt_codePoint (c : Char) : c.toNat < 0x110000 := by
  have h := c.valid
  unfold UInt32.isValidChar Nat.isValidChar at h
  show c.val.toNat < 0x110000
  omega

def CodePoint.ofChar (c : Char) : CodePoint := ⟨c.toNat, toNat_lt_codePoint c⟩

/-- A text without surrogates. -/
def PyStr.ofString (s : String) : PyStr := s.toList.map CodePoint.ofChar

def isSurrogate (c : Nat) : Bool := 0xD800 ≤ c && c < 0xE000

/-- The text holds no surrogate. -/
def PyStr.Encodable (text : PyStr) : Prop := ∀ c ∈ text, isSurrogate c.val = false

instance (text : PyStr) : Decidable text.Encodable :=
  List.decidableBAll (fun c : CodePoint => isSurrogate c.val = false) text

/-- `text.isascii()`. -/
def PyStr.isascii (text : PyStr) : Bool := text.all fun c => c.val < 128

/-- The text as a `String`, if it holds no surrogate. -/
def PyStr.toString? (text : PyStr) : Option String :=
  if text.any fun c => isSurrogate c.val then none
  else some (String.ofList (text.map fun c => Char.ofNat c.val))

/-! ## §2. UTF-8. -/

namespace Utf8

/-- The bytes of a code point. -/
def encodePoint (c : Nat) : List Nat :=
  if c < 0x80 then [c]
  else if c < 0x800 then [0xC0 + c / 64, 0x80 + c % 64]
  else if c < 0x10000 then [0xE0 + c / 4096, 0x80 + c / 64 % 64, 0x80 + c % 64]
  else [0xF0 + c / 262144, 0x80 + c / 4096 % 64, 0x80 + c / 64 % 64, 0x80 + c % 64]

/-- `text.encode("utf-8")`. -/
def encode (text : PyStr) : Except PyExc (List Nat) :=
  if text.any fun c => isSurrogate c.val then .error (.value "surrogates not allowed")
  else .ok (text.flatMap fun c => encodePoint c.val)

/-- A byte that continues a character. -/
def isTail (b : Nat) : Bool := 0x80 ≤ b && b < 0xC0

/-- The second byte of three: neither overlong nor a surrogate. -/
def isSecondOf3 (first b : Nat) : Bool :=
  isTail b && (first ≠ 0xE0 || 0xA0 ≤ b) && (first ≠ 0xED || b < 0xA0)

/-- The second byte of four. -/
def isSecondOf4 (first b : Nat) : Bool :=
  isTail b && (first ≠ 0xF0 || 0x90 ≤ b) && (first ≠ 0xF4 || b < 0x90)

/-- The replacement character. -/
def REPLACEMENT : Nat := 0xFFFD

/-- `data.decode("utf-8", "replace")`. -/
def decodePoints : List Nat → List Nat
  | [] => []
  | a :: rest =>
      if a < 0x80 then a :: decodePoints rest
      else if 0xC2 ≤ a ∧ a < 0xE0 then
        match rest with
        | [] => [REPLACEMENT]
        | b :: rest₁ =>
            if isTail b then ((a - 0xC0) * 64 + (b - 0x80)) :: decodePoints rest₁
            else REPLACEMENT :: decodePoints (b :: rest₁)
      else if 0xE0 ≤ a ∧ a < 0xF0 then
        match rest with
        | [] => [REPLACEMENT]
        | b :: rest₁ =>
            if isSecondOf3 a b then
              match rest₁ with
              | [] => [REPLACEMENT]
              | c :: rest₂ =>
                  if isTail c then
                    ((a - 0xE0) * 4096 + (b - 0x80) * 64 + (c - 0x80)) :: decodePoints rest₂
                  else REPLACEMENT :: decodePoints (c :: rest₂)
            else REPLACEMENT :: decodePoints (b :: rest₁)
      else if 0xF0 ≤ a ∧ a < 0xF5 then
        match rest with
        | [] => [REPLACEMENT]
        | b :: rest₁ =>
            if isSecondOf4 a b then
              match rest₁ with
              | [] => [REPLACEMENT]
              | c :: rest₂ =>
                  if isTail c then
                    match rest₂ with
                    | [] => [REPLACEMENT]
                    | d :: rest₃ =>
                        if isTail d then
                          ((a - 0xF0) * 262144 + (b - 0x80) * 4096 + (c - 0x80) * 64 + (d - 0x80))
                            :: decodePoints rest₃
                        else REPLACEMENT :: decodePoints (d :: rest₃)
                  else REPLACEMENT :: decodePoints (c :: rest₂)
            else REPLACEMENT :: decodePoints (b :: rest₁)
      else REPLACEMENT :: decodePoints rest

def decodeReplace (bytes : List Nat) : PyStr := (decodePoints bytes).map (Fin.ofNat 0x110000)

/-! ## §3. The round trip. -/

theorem encodePoint_lt {c : Nat} (h : c < 0x110000) : ∀ b ∈ encodePoint c, b < 256 := by
  unfold encodePoint
  split
  · simp
    omega
  split
  · simp
    omega
  split
  · simp
    omega
  · simp
    omega

/-! One character of each length. -/

section

variable {a b c d : Nat} (rest : List Nat)

theorem decodePoints_one (ha : a < 0x80) : decodePoints (a :: rest) = a :: decodePoints rest := by
  rw [decodePoints.eq_def]
  dsimp only
  rw [if_pos ha]

theorem decodePoints_two (ha : 0xC2 ≤ a ∧ a < 0xE0) (hb : isTail b = true) :
    decodePoints (a :: b :: rest) = ((a - 0xC0) * 64 + (b - 0x80)) :: decodePoints rest := by
  rw [decodePoints.eq_def]
  dsimp only
  rw [if_neg (by omega), if_pos ha, if_pos hb]

theorem decodePoints_three (ha : 0xE0 ≤ a ∧ a < 0xF0) (hb : isSecondOf3 a b = true)
    (hc : isTail c = true) : decodePoints (a :: b :: c :: rest) =
      ((a - 0xE0) * 4096 + (b - 0x80) * 64 + (c - 0x80)) :: decodePoints rest := by
  rw [decodePoints.eq_def]
  dsimp only
  rw [if_neg (by omega), if_neg (by omega), if_pos ha, if_pos hb, if_pos hc]

theorem decodePoints_four (ha : 0xF0 ≤ a ∧ a < 0xF5) (hb : isSecondOf4 a b = true)
    (hc : isTail c = true) (hd : isTail d = true) : decodePoints (a :: b :: c :: d :: rest) =
      ((a - 0xF0) * 262144 + (b - 0x80) * 4096 + (c - 0x80) * 64 + (d - 0x80))
        :: decodePoints rest := by
  rw [decodePoints.eq_def]
  dsimp only
  rw [if_neg (by omega), if_neg (by omega), if_neg (by omega), if_pos ha, if_pos hb, if_pos hc,
    if_pos hd]

end

theorem isTail_iff {b : Nat} : isTail b = true ↔ 0x80 ≤ b ∧ b < 0xC0 := by
  simp [isTail]

/-- The bytes of a character that is no surrogate are read as it. -/
theorem decodePoints_encodePoint {c : Nat} (h : c < 0x110000) (hs : isSurrogate c = false)
    (rest : List Nat) : decodePoints (encodePoint c ++ rest) = c :: decodePoints rest := by
  have hrange : ¬(0xD800 ≤ c ∧ c < 0xE000) := by
    intro hc
    simp [isSurrogate, hc.1, hc.2] at hs
  have htail : ∀ n, isTail (0x80 + n % 64) = true := fun n => isTail_iff.mpr (by omega)
  unfold encodePoint
  split
  · next h1 => exact decodePoints_one rest h1
  next h1 =>
  split
  · next h2 =>
    refine (decodePoints_two rest (by omega) (htail c)).trans ?_
    rw [List.cons.injEq]
    exact ⟨by omega, rfl⟩
  next h2 =>
  split
  · next h3 =>
    have hsecond : isSecondOf3 (0xE0 + c / 4096) (0x80 + c / 64 % 64) = true := by
      simp only [isSecondOf3, htail, Bool.true_and, Bool.and_eq_true, Bool.or_eq_true,
        decide_eq_true_eq]
      omega
    refine (decodePoints_three rest (by omega) hsecond (htail c)).trans ?_
    rw [List.cons.injEq]
    exact ⟨by omega, rfl⟩
  · next h3 =>
    have hsecond : isSecondOf4 (0xF0 + c / 262144) (0x80 + c / 4096 % 64) = true := by
      simp only [isSecondOf4, htail, Bool.true_and, Bool.and_eq_true, Bool.or_eq_true,
        decide_eq_true_eq]
      omega
    refine (decodePoints_four rest (by omega) hsecond (htail _) (htail c)).trans ?_
    rw [List.cons.injEq]
    exact ⟨by omega, rfl⟩

/-- **Decoding reads back what was encoded.** -/
theorem decodeReplace_encode {text : PyStr} {bytes : List Nat} (h : encode text = .ok bytes) :
    decodeReplace bytes = text := by
  unfold encode at h
  split at h
  · cases h
  next hany =>
  have hall : ∀ c ∈ text, isSurrogate c.val = false := by
    intro c hc
    rw [Bool.eq_false_iff]
    exact fun hs => hany (List.any_eq_true.mpr ⟨c, hc, hs⟩)
  rw [← Except.ok.inj h]
  clear h hany
  unfold decodeReplace
  induction text with
  | nil => rfl
  | cons c text ih =>
      rw [List.flatMap_cons, decodePoints_encodePoint c.isLt (hall c List.mem_cons_self),
        List.map_cons, ih fun c' hc' => hall c' (List.mem_cons_of_mem _ hc')]
      congr 1
      exact Fin.ext (Nat.mod_eq_of_lt c.isLt)

/-- A text is encoded exactly when it holds no surrogate. -/
theorem encode_isOk_iff {text : PyStr} : (∃ bytes, encode text = .ok bytes) ↔ text.Encodable := by
  unfold encode PyStr.Encodable
  constructor
  · intro ⟨bytes, h⟩ c hc
    rw [Bool.eq_false_iff]
    intro hs
    rw [if_pos (List.any_eq_true.mpr ⟨c, hc, hs⟩)] at h
    cases h
  · intro h
    have hany : ¬ (text.any fun c => isSurrogate c.val) = true := by
      intro hany
      obtain ⟨c, hc, hs⟩ := List.any_eq_true.mp hany
      rw [h c hc] at hs
      cases hs
    exact ⟨_, if_neg hany⟩

theorem encode_lt {text : PyStr} {bytes : List Nat} (h : encode text = .ok bytes) :
    ∀ b ∈ bytes, b < 256 := by
  unfold encode at h
  split at h
  · cases h
  rw [← Except.ok.inj h]
  intro b hb
  obtain ⟨c, -, hbc⟩ := List.mem_flatMap.mp hb
  exact encodePoint_lt c.isLt b hbc

end Utf8

/-! ## §4. Decoded JSON. -/

/-- What `json.loads` produces. -/
inductive PyJson
  | null
  | bool (b : Bool)
  | int (i : Int)
  | float (x : PyFloat)
  | str (s : PyStr)
  | arr (items : List PyJson)
  | obj (fields : List (PyStr × PyJson))

/-- `bool(value)`. -/
def PyJson.truthy : PyJson → Bool
  | .null => false
  | .bool b => b
  | .int i => i ≠ 0
  | .float x => x ≠ .finite 0
  | .str s => !s.isEmpty
  | .arr l => !l.isEmpty
  | .obj l => !l.isEmpty

/-- `value == text`. -/
def PyJson.isText (text : PyStr) : PyJson → Bool
  | .str s => s = text
  | _ => false

mutual

/-- A value without surrogates, as the database holds it. -/
def PyJson.ofJson : Json → PyJson
  | .null => .null
  | .bool b => .bool b
  | .int i => .int i
  | .float x => .float x
  | .str s => .str (PyStr.ofString s)
  | .arr items => .arr (PyJson.ofItems items)
  | .obj fields => .obj (PyJson.ofFields fields)

def PyJson.ofItems : List Json → List PyJson
  | [] => []
  | item :: items => PyJson.ofJson item :: PyJson.ofItems items

def PyJson.ofFields : List (String × Json) → List (PyStr × PyJson)
  | [] => []
  | (k, v) :: fields => (PyStr.ofString k, PyJson.ofJson v) :: PyJson.ofFields fields

end

/-- A dict: its items in order, each key once. -/
structure PyDict where
  items : List (PyStr × PyJson)
  nodup : (items.map Prod.fst).Nodup

/-- `d.get(key)`. -/
def PyDict.get? (d : PyDict) (key : PyStr) : Option PyJson :=
  (d.items.find? fun item => item.1 = key).map Prod.snd

/-- `d.get(key, default)`. -/
def PyDict.getD (d : PyDict) (key : PyStr) (default : PyJson) : PyJson :=
  (d.get? key).getD default

theorem PyDict.get?_of_mem {d : PyDict} {key : PyStr} {value : PyJson}
    (h : (key, value) ∈ d.items) : d.get? key = some value := by
  obtain ⟨items, hnodup⟩ := d
  unfold PyDict.get?
  dsimp only at h hnodup ⊢
  induction items with
  | nil => cases h
  | cons item items ih =>
      rw [List.map_cons, List.nodup_cons] at hnodup
      rw [List.find?_cons]
      rcases List.mem_cons.mp h with heq | hmem
      · rw [← heq]
        simp
      · have hne : item.1 ≠ key := by
          intro heq
          exact hnodup.1 (heq ▸ List.mem_map_of_mem (f := Prod.fst) hmem)
        simp only [hne, decide_false]
        exact ih hnodup.2 hmem

theorem PyDict.mem_of_get? {d : PyDict} {key : PyStr} {value : PyJson}
    (h : d.get? key = some value) : (key, value) ∈ d.items := by
  unfold PyDict.get? at h
  obtain ⟨item, hitem, hvalue⟩ := Option.map_eq_some_iff.mp h
  have hkey : item.1 = key := by simpa using List.find?_some hitem
  have hmem := List.mem_of_find?_eq_some hitem
  rw [← hkey, ← hvalue]
  exact hmem

end PyBoard
