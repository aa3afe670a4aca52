/-
  PyBoard.Python.JsonText — the texts that stand for a JSON value.

  `JsonText text v` is the grammar of JSON, every production with its value.  A text is
  the list of its characters.  `dumps` writes a value with given separators, and what it
  writes stands for the value.

  Main results:
    * `ValueText.arr_intercalate`, `ValueText.obj_intercalate` — lists and objects from
      their parts, with whitespace after the separators.
    * `valueText_dumps`.
    * `writesJson_plainDumps`.
-/
import PyBoard.Python.Runtime

namespace PyBoard

/-! ## §1. The leaves. -/

/-- Whitespace between the tokens. -/
def IsBlank (w : List Char) : Prop := ∀ c ∈ w, c = ' ' ∨ c = '\n' ∨ c = '\r' ∨ c = '\t'

theorem isBlank_nil : IsBlank [] := by
  intro c hc
  cases hc

instance (w : List Char) : Decidable (IsBlank w) :=
  List.decidableBAll (fun c => c = ' ' ∨ c = '\n' ∨ c = '\r' ∨ c = '\t') w

/-- A decimal numeral, leading zeros and all. -/
def IsDigits (ds : List Char) : Prop := ds ≠ [] ∧ ∀ c ∈ ds, c.isDigit = true

def digitsValue (ds : List Char) : Nat := Nat.ofDigitChars 10 ds 0

/-- The integer part of a number has no leading zero. -/
def IsWhole (ds : List Char) : Prop := IsDigits ds ∧ (ds.head? = some '0' → ds = ['0'])

/-- The fraction of a number. -/
inductive FracText : List Char → ℚ → Prop
  | none : FracText [] 0
  | some {ds : List Char} (h : IsDigits ds) :
      FracText ('.' :: ds) (digitsValue ds / 10 ^ ds.length)

/-- The power of ten that scales a number. -/
inductive ExpText : List Char → ℚ → Prop
  | none : ExpText [] 1
  | up {e : Char} {sign ds : List Char} (he : e = 'e' ∨ e = 'E') (hsign : sign = [] ∨ sign = ['+'])
      (h : IsDigits ds) : ExpText (e :: (sign ++ ds)) (10 ^ digitsValue ds)
  | down {e : Char} {ds : List Char} (he : e = 'e' ∨ e = 'E') (h : IsDigits ds) :
      ExpText (e :: '-' :: ds) (1 / 10 ^ digitsValue ds)

/-- The sign of a number. -/
inductive SignText : List Char → ℤ → Prop
  | plus : SignText [] 1
  | minus : SignText ['-'] (-1)

/-- The escapes of one letter: the letter, and what it stands for. -/
def shortEscapes : List (Char × Char) :=
  [('"', '"'), ('\\', '\\'), ('/', '/'), ('b', '\x08'), ('f', '\x0c'), ('n', '\n'), ('r', '\r'),
    ('t', '\t')]

/-- The value of a hexadecimal digit. -/
def hexDigitValue (c : Char) : Option Nat :=
  if '0' ≤ c ∧ c ≤ '9' then some (c.toNat - '0'.toNat)
  else if 'a' ≤ c ∧ c ≤ 'f' then some (c.toNat - 'a'.toNat + 10)
  else if 'A' ≤ c ∧ c ≤ 'F' then some (c.toNat - 'A'.toNat + 10)
  else none

/-- Four hexadecimal digits and their value. -/
def HexText (ds : List Char) (n : Nat) : Prop :=
  ∃ a b c d, ds.map hexDigitValue = [some a, some b, some c, some d] ∧
    n = ((a * 16 + b) * 16 + c) * 16 + d

/-- What stands between the quotes of a text. -/
inductive StrBody : List Char → List Char → Prop
  | nil : StrBody [] []
  | plain {c : Char} {body s : List Char} (hc : 0x20 ≤ c.toNat) (hquote : c ≠ '"')
      (hslash : c ≠ '\\') (h : StrBody body s) : StrBody (c :: body) (c :: s)
  | short {e c : Char} {body s : List Char} (he : (e, c) ∈ shortEscapes) (h : StrBody body s) :
      StrBody ('\\' :: e :: body) (c :: s)
  | unicode {ds body s : List Char} {n : Nat} (hds : HexText ds n)
      (hn : n < 0xD800 ∨ 0xE000 ≤ n) (h : StrBody body s) :
      StrBody ('\\' :: 'u' :: (ds ++ body)) (Char.ofNat n :: s)
  /-- A character above U+FFFF is escaped as its two surrogates. -/
  | pair {ds ds' body s : List Char} {n n' : Nat} (hds : HexText ds n) (hds' : HexText ds' n')
      (hn : 0xD800 ≤ n ∧ n < 0xDC00) (hn' : 0xDC00 ≤ n' ∧ n' < 0xE000) (h : StrBody body s) :
      StrBody ('\\' :: 'u' :: (ds ++ '\\' :: 'u' :: (ds' ++ body)))
        (Char.ofNat (0x10000 + (n - 0xD800) * 0x400 + (n' - 0xDC00)) :: s)

/-- A text in quotes. -/
inductive StrText : List Char → String → Prop
  | mk {body : List Char} {s : String} (h : StrBody body s.toList) :
      StrText ('"' :: (body ++ ['"'])) s

/-! ## §2. Values. -/

/-- The same, with whitespace around it. -/
inductive Padded {α : Type} (R : List Char → α → Prop) : List Char → α → Prop
  | mk {w t w' : List Char} {a : α} (hw : IsBlank w) (h : R t a) (hw' : IsBlank w') :
      Padded R (w ++ (t ++ w')) a

/-- A value, without whitespace around it. -/
inductive ValueText : List Char → Json → Prop
  | null : ValueText ['n', 'u', 'l', 'l'] .null
  | true : ValueText ['t', 'r', 'u', 'e'] (.bool true)
  | false : ValueText ['f', 'a', 'l', 's', 'e'] (.bool false)
  | int {sign ds : List Char} {s : ℤ} (hsign : SignText sign s) (h : IsWhole ds) :
      ValueText (sign ++ ds) (.int (s * digitsValue ds))
  /-- A number with a fraction or an exponent is read as the double nearest to it. -/
  | float {sign ds frac exp : List Char} {s : ℤ} {f e : ℚ} (hsign : SignText sign s)
      (h : IsWhole ds) (hfrac : FracText frac f) (hexp : ExpText exp e)
      (hsome : frac ++ exp ≠ []) :
      ValueText (sign ++ ds ++ frac ++ exp) (.float (.ofRat (s * (digitsValue ds + f) * e)))
  | str {text : List Char} {s : String} (h : StrText text s) : ValueText text (.str s)
  | emptyArr {w : List Char} (hw : IsBlank w) : ValueText ('[' :: (w ++ [']'])) (.arr [])
  | arr {parts : List (List Char)} {items : List Json}
      (h : List.Forall₂ (Padded ValueText) parts items) (hsome : items ≠ []) :
      ValueText ('[' :: ([','].intercalate parts ++ [']'])) (.arr items)
  | emptyObj {w : List Char} (hw : IsBlank w) : ValueText ('\x7b' :: (w ++ ['\x7d'])) (.obj [])
  | obj {keys parts : List (List Char)} {fields : List (String × Json)}
      (hkeys : List.Forall₂ (Padded StrText) keys (fields.map Prod.fst))
      (h : List.Forall₂ (Padded ValueText) parts (fields.map Prod.snd)) (hsome : fields ≠ []) :
      ValueText
        ('\x7b' :: ([','].intercalate (keys.zipWith (fun k t => k ++ ':' :: t) parts) ++ ['\x7d']))
        (.obj fields)

/-- A JSON document. -/
def JsonText : List Char → Json → Prop := Padded ValueText

theorem jsonText_of_valueText {text : List Char} {v : Json} (h : ValueText text v) :
    JsonText text v := by
  have hpad := Padded.mk isBlank_nil h isBlank_nil
  rwa [List.nil_append, List.append_nil] at hpad

/-- Whitespace may be added on both sides. -/
theorem Padded.pad {α : Type} {R : List Char → α → Prop} {t w w' : List Char} {a : α}
    (h : Padded R t a) (hw : IsBlank w) (hw' : IsBlank w') : Padded R (w ++ (t ++ w')) a := by
  cases h with
  | @mk v t v' _ hv ht hv' =>
      have hleft : IsBlank (w ++ v) := List.forall_mem_append.mpr ⟨hw, hv⟩
      have hright : IsBlank (v' ++ w') := List.forall_mem_append.mpr ⟨hv', hw'⟩
      have hpad := Padded.mk hleft ht hright
      simpa only [List.append_assoc] using hpad

/-! ## §3. Integers. -/

theorem isDigits_toDigits (n : Nat) : IsDigits (Nat.toDigits 10 n) := by
  refine ⟨Nat.toDigits_ne_nil, ?_⟩
  intro c hc
  exact Nat.isDigit_of_mem_toDigits (by decide) (by decide) hc

theorem toDigits_head_zero (n : Nat) (h : (Nat.toDigits 10 n).head? = some '0') :
    Nat.toDigits 10 n = ['0'] := by
  induction n using Nat.strongRecOn with
  | ind n ih =>
      rw [Nat.toDigits_eq_if (by decide)] at h ⊢
      split at h
      · next hlt =>
        rw [if_pos hlt]
        rw [List.head?_cons, Option.some.injEq] at h
        rw [h]
      · next hge =>
        -- the first digit of a longer numeral is that of its tenth
        exfalso
        rw [List.head?_append_of_ne_nil _ Nat.toDigits_ne_nil] at h
        have htenth := ih (n / 10) (by omega) h
        have hzero := congrArg (fun ds => Nat.ofDigitChars 10 ds 0) htenth
        simp only [Nat.ofDigitChars_ten_toDigits] at hzero
        have : Nat.ofDigitChars 10 ['0'] 0 = 0 := by decide
        omega

theorem isWhole_toDigits (n : Nat) : IsWhole (Nat.toDigits 10 n) :=
  ⟨isDigits_toDigits n, toDigits_head_zero n⟩

theorem digitsValue_toDigits (n : Nat) : digitsValue (Nat.toDigits 10 n) = n :=
  Nat.ofDigitChars_ten_toDigits

/-- The notation of an integer. -/
theorem valueText_int (i : Int) : ValueText (toString i).toList (.int i) := by
  cases i with
  | ofNat n =>
      have h := ValueText.int .plus (isWhole_toDigits n)
      rw [digitsValue_toDigits, one_mul] at h
      have htext : (toString (Int.ofNat n)).toList = Nat.toDigits 10 n := Nat.toList_repr
      rw [htext]
      exact h
  | negSucc n =>
      have h := ValueText.int .minus (isWhole_toDigits (n + 1))
      rw [digitsValue_toDigits] at h
      have htext : (toString (Int.negSucc n)).toList = ['-'] ++ Nat.toDigits 10 (n + 1) := by
        show ("-" ++ (n + 1).repr).toList = _
        rw [String.toList_append, Nat.toList_repr]
        rfl
      have hvalue : (-1 : ℤ) * ((n + 1 : ℕ) : ℤ) = Int.negSucc n := by omega
      rw [htext, ← hvalue]
      exact h

/-! ## §4. Lists and objects. -/

/-- Parts with whitespace after the separators. -/
theorem exists_parts {α : Type} {R : List Char → α → Prop}
    (hpad : ∀ {w t : List Char} {a : α}, IsBlank w → R t a → R (w ++ t) a)
    {items : List α} {texts : List (List Char)} {blank : List Char} (hblank : IsBlank blank)
    (h : List.Forall₂ R texts items) {w : List Char} (hw : IsBlank w) (hsome : items ≠ []) :
    ∃ parts, List.Forall₂ R parts items ∧
      [','].intercalate parts = w ++ (',' :: blank).intercalate texts := by
  induction h generalizing w with
  | nil => exact absurd rfl hsome
  | @cons text item texts items hfirst hrest ih =>
      have hlead := hpad hw hfirst
      cases hrest with
      | nil =>
          refine ⟨[w ++ text], .cons hlead .nil, ?_⟩
          rw [List.intercalate_singleton, List.intercalate_singleton]
      | cons hsecond hmore =>
          obtain ⟨parts, hparts, heq⟩ := ih hblank (List.cons_ne_nil _ _)
          refine ⟨(w ++ text) :: parts, .cons hlead hparts, ?_⟩
          cases hparts with
          | cons _ _ =>
              rw [List.intercalate_cons_cons, List.intercalate_cons_cons, heq]
              simp only [List.append_assoc, List.cons_append, List.nil_append]

/-- Whitespace after the last part. -/
theorem exists_trailing {α : Type} {R : List Char → α → Prop} {w : List Char}
    (hpad : ∀ {t : List Char} {a : α}, R t a → R (t ++ w) a) {items : List α}
    {texts : List (List Char)} (h : List.Forall₂ R texts items) (hsome : items ≠ []) :
    ∃ texts', List.Forall₂ R texts' items ∧
      ∀ sep : List Char, sep.intercalate texts' = sep.intercalate texts ++ w := by
  induction h with
  | nil => exact absurd rfl hsome
  | @cons text item texts items hfirst hrest ih =>
      cases hrest with
      | nil =>
          refine ⟨[text ++ w], .cons (hpad hfirst) .nil, ?_⟩
          intro sep
          rw [List.intercalate_singleton, List.intercalate_singleton]
      | cons hsecond hmore =>
          obtain ⟨texts', htexts, heq⟩ := ih (List.cons_ne_nil _ _)
          refine ⟨text :: texts', .cons hfirst htexts, ?_⟩
          intro sep
          cases htexts with
          | cons _ _ =>
              rw [List.intercalate_cons_cons, List.intercalate_cons_cons, heq]
              simp only [List.append_assoc]

theorem Padded.lead {α : Type} {R : List Char → α → Prop} {w t : List Char} {a : α}
    (hw : IsBlank w) (h : Padded R t a) : Padded R (w ++ t) a := by
  have hpad := h.pad hw isBlank_nil
  rwa [List.append_nil] at hpad

theorem Padded.trail {α : Type} {R : List Char → α → Prop} {w t : List Char} {a : α}
    (hw : IsBlank w) (h : Padded R t a) : Padded R (t ++ w) a := by
  have hpad := h.pad isBlank_nil hw
  rwa [List.nil_append] at hpad

/-- A list from its items. -/
theorem ValueText.arr_intercalate {items : List Json} {texts : List (List Char)}
    {blank w w' : List Char} (hblank : IsBlank blank)
    (h : List.Forall₂ (Padded ValueText) texts items) (hw : IsBlank w) (hw' : IsBlank w')
    (hsome : items ≠ []) :
    ValueText ('[' :: (w ++ ((',' :: blank).intercalate texts ++ (w' ++ [']'])))) (.arr items) := by
  obtain ⟨texts', htexts, htrail⟩ := exists_trailing (Padded.trail hw') h hsome
  obtain ⟨parts, hparts, heq⟩ := exists_parts Padded.lead hblank htexts hw hsome
  have harr := ValueText.arr hparts hsome
  rw [heq, htrail] at harr
  simpa only [List.append_assoc] using harr

/-- A key and its value. -/
inductive MemberText : List Char → String × Json → Prop
  | mk {k t : List Char} {f : String × Json} (hk : Padded StrText k f.1)
      (h : Padded ValueText t f.2) : MemberText (k ++ ':' :: t) f

theorem MemberText.lead {w t : List Char} {f : String × Json} (hw : IsBlank w)
    (h : MemberText t f) : MemberText (w ++ t) f := by
  cases h with
  | mk hk h =>
      rw [← List.append_assoc]
      exact .mk (hk.lead hw) h

theorem MemberText.trail {w t : List Char} {f : String × Json} (hw : IsBlank w)
    (h : MemberText t f) : MemberText (t ++ w) f := by
  cases h with
  | mk hk h =>
      rw [List.append_assoc, List.cons_append]
      exact .mk hk (h.trail hw)

/-- An object from its members. -/
theorem ValueText.obj_intercalate {fields : List (String × Json)} {texts : List (List Char)}
    {blank w w' : List Char} (hblank : IsBlank blank) (h : List.Forall₂ MemberText texts fields)
    (hw : IsBlank w) (hw' : IsBlank w') (hsome : fields ≠ []) :
    ValueText ('\x7b' :: (w ++ ((',' :: blank).intercalate texts ++ (w' ++ ['\x7d']))))
      (.obj fields) := by
  obtain ⟨texts', htexts, htrail⟩ := exists_trailing (MemberText.trail hw') h hsome
  obtain ⟨members, hmembers, heq⟩ := exists_parts MemberText.lead hblank htexts hw hsome
  have hsplit : ∃ keys parts, List.Forall₂ (Padded StrText) keys (fields.map Prod.fst) ∧
      List.Forall₂ (Padded ValueText) parts (fields.map Prod.snd) ∧
      keys.zipWith (fun k t => k ++ ':' :: t) parts = members := by
    clear heq htrail htexts h hsome
    induction hmembers with
    | nil => exact ⟨[], [], .nil, .nil, rfl⟩
    | cons hfirst hrest ih =>
        obtain ⟨keys, parts, hkeys, hparts, hzip⟩ := ih
        cases hfirst with
        | @mk k t _ hk ht =>
            refine ⟨k :: keys, t :: parts, .cons hk hkeys, .cons ht hparts, ?_⟩
            rw [List.zipWith_cons_cons, hzip]
  obtain ⟨keys, parts, hkeys, hparts, hzip⟩ := hsplit
  have hobj := ValueText.obj hkeys hparts hsome
  rw [hzip, heq, htrail] at hobj
  simpa only [List.append_assoc] using hobj

/-! ## §5. Writing a value. -/

/-- Does the character stand for itself? -/
def isPlain (c : Char) : Bool := 0x20 ≤ c.toNat && c ≠ '"' && c ≠ '\\'

/-- A digit below sixteen. -/
def hexChar (n : Nat) : Char := Nat.digitChar n

/-- A character of a text. -/
def escapeChar (c : Char) : List Char :=
  if isPlain c then [c]
  else
    match shortEscapes.find? fun f => f.2 = c with
    | some f => ['\\', f.1]
    | none => ['\\', 'u', '0', '0', hexChar (c.toNat / 16), hexChar (c.toNat % 16)]

/-- A text in quotes. -/
def quoted (s : String) : List Char := '"' :: (s.toList.flatMap escapeChar ++ ['"'])

mutual

/-- A value, with whitespace after its commas and colons.  Floats are not written. -/
def dumps (blank : List Char) : Json → Option (List Char)
  | .null => some ['n', 'u', 'l', 'l']
  | .bool true => some ['t', 'r', 'u', 'e']
  | .bool false => some ['f', 'a', 'l', 's', 'e']
  | .int i => some (toString i).toList
  | .float _ => none
  | .str s => some (quoted s)
  | .arr items => (dumpsItems blank items).map fun parts =>
      '[' :: ((',' :: blank).intercalate parts ++ [']'])
  | .obj fields => (dumpsFields blank fields).map fun parts =>
      '\x7b' :: ((',' :: blank).intercalate parts ++ ['\x7d'])

def dumpsItems (blank : List Char) : List Json → Option (List (List Char))
  | [] => some []
  | item :: items =>
      match dumps blank item, dumpsItems blank items with
      | some part, some parts => some (part :: parts)
      | _, _ => none

def dumpsFields (blank : List Char) : List (String × Json) → Option (List (List Char))
  | [] => some []
  | (key, value) :: fields =>
      match dumps blank value, dumpsFields blank fields with
      | some part, some parts => some ((quoted key ++ ':' :: (blank ++ part)) :: parts)
      | _, _ => none

end

theorem hexDigitValue_hexChar : ∀ n < 16, hexDigitValue (hexChar n) = some n := by decide

theorem strBody_escapeChar (c : Char) {body s : List Char} (h : StrBody body s) :
    StrBody (escapeChar c ++ body) (c :: s) := by
  unfold escapeChar
  split
  · next hplain =>
    unfold isPlain at hplain
    simp only [Bool.and_eq_true, decide_eq_true_eq] at hplain
    exact .plain hplain.1.1 hplain.1.2 hplain.2 h
  · next hplain =>
    split
    · next f hfind =>
      have hmem := List.mem_of_find?_eq_some hfind
      have hc := List.find?_some hfind
      rw [← of_decide_eq_true hc]
      exact .short hmem h
    · next hnone =>
      -- what is left is a control character
      have hlt : c.toNat < 0x20 := by
        by_contra hge
        have hfind := List.find?_eq_none.mp hnone
        have hquote := hfind ('"', '"') (by decide)
        have hslash := hfind ('\\', '\\') (by decide)
        simp only [decide_eq_true_eq] at hquote hslash
        apply hplain
        unfold isPlain
        simp only [Bool.and_eq_true, decide_eq_true_eq]
        exact ⟨⟨by omega, Ne.symm hquote⟩, Ne.symm hslash⟩
      have hhex : HexText ['0', '0', hexChar (c.toNat / 16), hexChar (c.toNat % 16)] c.toNat := by
        refine ⟨0, 0, c.toNat / 16, c.toNat % 16, ?_, by omega⟩
        simp only [List.map_cons, List.map_nil, hexDigitValue_hexChar _ (show c.toNat / 16 < 16 by
          omega), hexDigitValue_hexChar _ (show c.toNat % 16 < 16 by omega)]
        rfl
      have hbody := StrBody.unicode hhex (.inl (by omega)) h
      rwa [Char.ofNat_toNat] at hbody

theorem strText_quoted (s : String) : StrText (quoted s) s := by
  refine .mk ?_
  induction s.toList with
  | nil => exact .nil
  | cons c l ih =>
      rw [List.flatMap_cons]
      exact strBody_escapeChar c ih

theorem padded_quoted {blank : List Char} (hblank : IsBlank blank) (s : String) :
    Padded StrText (blank ++ quoted s) s := by
  have h := Padded.mk hblank (strText_quoted s) isBlank_nil
  rwa [List.append_nil] at h

mutual

/-- What is written stands for the value. -/
theorem valueText_dumps {blank : List Char} (hblank : IsBlank blank) :
    (v : Json) → {text : List Char} → dumps blank v = some text → ValueText text v
  | .null, _, h => by
      injection h with h
      exact h ▸ .null
  | .bool true, _, h => by
      injection h with h
      exact h ▸ .true
  | .bool false, _, h => by
      injection h with h
      exact h ▸ .false
  | .int i, _, h => by
      injection h with h
      exact h ▸ valueText_int i
  | .float _, _, h => by cases h
  | .str s, _, h => by
      injection h with h
      exact h ▸ .str (strText_quoted s)
  | .arr items, text, h => by
      rw [dumps, Option.map_eq_some_iff] at h
      obtain ⟨parts, hparts, rfl⟩ := h
      have hall := forall₂_dumpsItems hblank items hparts
      cases items with
      | nil =>
          cases hall
          exact .emptyArr isBlank_nil
      | cons item items =>
          exact .arr_intercalate hblank hall isBlank_nil isBlank_nil
            (List.cons_ne_nil _ _)
  | .obj fields, text, h => by
      rw [dumps, Option.map_eq_some_iff] at h
      obtain ⟨parts, hparts, rfl⟩ := h
      have hall := forall₂_dumpsFields hblank fields hparts
      cases fields with
      | nil =>
          cases hall
          exact .emptyObj isBlank_nil
      | cons f fields =>
          exact .obj_intercalate hblank hall isBlank_nil isBlank_nil
            (List.cons_ne_nil _ _)

theorem forall₂_dumpsItems {blank : List Char} (hblank : IsBlank blank) :
    (items : List Json) → {parts : List (List Char)} → dumpsItems blank items = some parts →
      List.Forall₂ (Padded ValueText) parts items
  | [], _, h => by
      injection h with h
      exact h ▸ .nil
  | item :: items, parts, h => by
      rw [dumpsItems] at h
      split at h
      · next part parts' hpart hrest =>
        injection h with h
        rw [← h]
        exact .cons (jsonText_of_valueText (valueText_dumps hblank item hpart))
          (forall₂_dumpsItems hblank items hrest)
      · cases h

theorem forall₂_dumpsFields {blank : List Char} (hblank : IsBlank blank) :
    (fields : List (String × Json)) → {parts : List (List Char)} →
      dumpsFields blank fields = some parts → List.Forall₂ MemberText parts fields
  | [], _, h => by
      injection h with h
      exact h ▸ .nil
  | (key, value) :: fields, parts, h => by
      rw [dumpsFields] at h
      split at h
      · next part parts' hpart hrest =>
        injection h with h
        rw [← h]
        have hkey := padded_quoted isBlank_nil key
        have hvalue := (jsonText_of_valueText (valueText_dumps hblank value hpart)).lead hblank
        exact .cons (.mk hkey hvalue) (forall₂_dumpsFields hblank fields hrest)
      · cases h

end

/-! ## §6. Lines. -/

theorem mem_intercalate {α : Type} {sep : List α} {parts : List (List α)} {a : α}
    (h : a ∈ sep.intercalate parts) : a ∈ sep ∨ ∃ part ∈ parts, a ∈ part := by
  induction parts with
  | nil => cases h
  | cons part parts ih =>
      cases parts with
      | nil =>
          rw [List.intercalate_singleton] at h
          exact .inr ⟨part, List.mem_cons_self, h⟩
      | cons part' parts =>
          rw [List.intercalate_cons_cons, List.mem_append, List.mem_append] at h
          rcases h with (h | h) | h
          · exact .inr ⟨part, List.mem_cons_self, h⟩
          · exact .inl h
          · rcases ih h with hsep | ⟨p, hp, ha⟩
            · exact .inl hsep
            · exact .inr ⟨p, List.mem_cons_of_mem _ hp, ha⟩

theorem newline_not_mem_escapeChar (c : Char) : '\n' ∉ escapeChar c := by
  unfold escapeChar
  split
  · next hplain =>
    intro hmem
    rw [List.mem_singleton] at hmem
    rw [← hmem] at hplain
    revert hplain
    decide
  · next hplain =>
    split
    · next f hfind =>
      have hmem := List.mem_of_find?_eq_some hfind
      have hletters : ∀ f ∈ shortEscapes, '\n' ∉ ['\\', f.1] := by decide
      exact hletters f hmem
    · next hnone =>
      have hdigit : ∀ n, hexChar n ≠ '\n' := by
        intro n
        unfold hexChar
        by_cases hn : n < 16
        · revert n
          decide
        · have hstar : Nat.digitChar n = '*' := by
            simp
            omega
          rw [hstar]
          decide
      simp [Ne.symm (hdigit _)]

theorem newline_not_mem_quoted (s : String) : '\n' ∉ quoted s := by
  unfold quoted
  rw [List.mem_cons, List.mem_append, List.mem_flatMap]
  rintro (h | ⟨c, _, h⟩ | h)
  · revert h
    decide
  · exact newline_not_mem_escapeChar c h
  · revert h
    decide

theorem newline_not_mem_int (i : Int) : '\n' ∉ (toString i).toList := by
  have hdigits : ∀ n : Nat, '\n' ∉ n.repr.toList := by
    intro n hmem
    rw [Nat.toList_repr] at hmem
    have hdigit := Nat.isDigit_of_mem_toDigits (by decide) (by decide) hmem
    revert hdigit
    decide
  cases i with
  | ofNat n => exact hdigits n
  | negSucc n =>
      show '\n' ∉ ("-" ++ (n + 1).repr).toList
      rw [String.toList_append, List.mem_append]
      rintro (h | h)
      · revert h
        decide
      · exact hdigits (n + 1) h

theorem newline_not_mem_joined {blank : List Char} (hblank : '\n' ∉ blank)
    {parts : List (List Char)} (hparts : ∀ part ∈ parts, '\n' ∉ part) {first last : Char}
    (hfirst : '\n' ≠ first) (hlast : '\n' ≠ last) :
    '\n' ∉ first :: ((',' :: blank).intercalate parts ++ [last]) := by
  rw [List.mem_cons, List.mem_append, List.mem_singleton]
  rintro (h | h | h)
  · exact hfirst h
  · rcases mem_intercalate h with hsep | ⟨part, hpart, hmem⟩
    · rcases List.mem_cons.mp hsep with hcomma | hmem
      · revert hcomma
        decide
      · exact hblank hmem
    · exact hparts part hpart hmem
  · exact hlast h

mutual

theorem newline_not_mem_dumps {blank : List Char} (hblank : '\n' ∉ blank) :
    (v : Json) → {text : List Char} → dumps blank v = some text → '\n' ∉ text
  | .null, _, h => by
      injection h with h
      rw [← h]
      decide
  | .bool true, _, h => by
      injection h with h
      rw [← h]
      decide
  | .bool false, _, h => by
      injection h with h
      rw [← h]
      decide
  | .int i, _, h => by
      injection h with h
      exact h ▸ newline_not_mem_int i
  | .float _, _, h => by cases h
  | .str s, _, h => by
      injection h with h
      exact h ▸ newline_not_mem_quoted s
  | .arr items, text, h => by
      rw [dumps, Option.map_eq_some_iff] at h
      obtain ⟨parts, hparts, rfl⟩ := h
      exact newline_not_mem_joined hblank (newline_not_mem_dumpsItems hblank items hparts)
        (by decide) (by decide)
  | .obj fields, text, h => by
      rw [dumps, Option.map_eq_some_iff] at h
      obtain ⟨parts, hparts, rfl⟩ := h
      exact newline_not_mem_joined hblank (newline_not_mem_dumpsFields hblank fields hparts)
        (by decide) (by decide)

theorem newline_not_mem_dumpsItems {blank : List Char} (hblank : '\n' ∉ blank) :
    (items : List Json) → {parts : List (List Char)} → dumpsItems blank items = some parts →
      ∀ part ∈ parts, '\n' ∉ part
  | [], _, h => by
      injection h with h
      rw [← h]
      intro part hpart
      cases hpart
  | item :: items, parts, h => by
      rw [dumpsItems] at h
      split at h
      · next part parts' hpart hrest =>
        injection h with h
        rw [← h, List.forall_mem_cons]
        exact ⟨newline_not_mem_dumps hblank item hpart,
          newline_not_mem_dumpsItems hblank items hrest⟩
      · cases h

theorem newline_not_mem_dumpsFields {blank : List Char} (hblank : '\n' ∉ blank) :
    (fields : List (String × Json)) → {parts : List (List Char)} →
      dumpsFields blank fields = some parts → ∀ part ∈ parts, '\n' ∉ part
  | [], _, h => by
      injection h with h
      rw [← h]
      intro part hpart
      cases hpart
  | (key, value) :: fields, parts, h => by
      rw [dumpsFields] at h
      split at h
      · next part parts' hpart hrest =>
        injection h with h
        rw [← h, List.forall_mem_cons]
        refine ⟨?_, newline_not_mem_dumpsFields hblank fields hrest⟩
        rw [List.mem_append, List.mem_cons, List.mem_append]
        rintro (hmem | hmem | hmem | hmem)
        · exact newline_not_mem_quoted key hmem
        · revert hmem
          decide
        · exact hblank hmem
        · exact newline_not_mem_dumps hblank value hpart hmem
      · cases h

end

/-! ## §7. `orjson.dumps`. -/

/-- What `orjson.dumps(value).decode()` is relied on for: the text of the value, on one line. -/
structure WritesJson (to_json : Json → Except PyExc String) : Prop where
  value : ∀ {v : Json} {text : String}, to_json v = .ok text → ValueText text.toList v
  one_line : ∀ {v : Json} {text : String}, to_json v = .ok text → '\n' ∉ text.toList

/-- A writer for runs on fixed inputs: compact, and without floats. -/
def plainDumps (v : Json) : Except PyExc String :=
  match dumps [] v with
  | some text => .ok (String.ofList text)
  | none => .error (.other "JSONEncodeError")

theorem writesJson_plainDumps : WritesJson plainDumps := by
  have hdumps : ∀ {v : Json} {text : String}, plainDumps v = .ok text →
      dumps [] v = some text.toList := by
    intro v text h
    unfold plainDumps at h
    split at h
    · next t ht =>
      injection h with h
      rw [← h, String.toList_ofList]
      exact ht
    · cases h
  constructor
  · intro v text h
    exact valueText_dumps isBlank_nil v (hdumps h)
  · intro v text h
    exact newline_not_mem_dumps List.not_mem_nil v (hdumps h)

end PyBoard
