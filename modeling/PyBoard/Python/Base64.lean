/-
  PyBoard.Python.Base64 — the `base64` module.

  Encoding groups the bytes by three.  Decoding is the state machine of
  `binascii.a2b_base64` in its lenient mode: characters outside the alphabet are
  skipped, and a padding character ends the input once the quad it closes is
  complete.

  Main result: `urlsafeDecode_urlsafe`, the round trip of an encoding without its padding,
  padded again by `"=" * (-len(token) % 4)`.
-/
import Mathlib.Tactic.Ring

namespace PyBoard.Base64

/-! ## §1. The alphabet. -/

/-- The character of a sextet; `plus` and `slash` stand for the last two. -/
def charOf (plus slash : Char) (n : Nat) : Char :=
  if n < 26 then Char.ofNat (65 + n)
  else if n < 52 then Char.ofNat (71 + n)
  else if n < 62 then Char.ofNat (n - 4)
  else if n = 62 then plus
  else slash

/-- The sextet of a character of the URL-safe alphabet; `urlsafe_b64decode` also takes the
    two characters of the standard one. -/
def sextetOf (c : Char) : Option Nat :=
  if 'A' ≤ c ∧ c ≤ 'Z' then some (c.toNat - 65)
  else if 'a' ≤ c ∧ c ≤ 'z' then some (c.toNat - 71)
  else if '0' ≤ c ∧ c ≤ '9' then some (c.toNat + 4)
  else if c = '-' ∨ c = '+' then some 62
  else if c = '_' ∨ c = '/' then some 63
  else none

theorem sextetOf_charOf {n : Nat} (h : n < 64) : sextetOf (charOf '-' '_' n) = some n := by
  revert h
  revert n
  decide

theorem charOf_ascii {n : Nat} (h : n < 64) : (charOf '-' '_' n).toNat < 128 := by
  revert h
  revert n
  decide

theorem charOf_ne_pad {n : Nat} (h : n < 64) : charOf '-' '_' n ≠ '=' := by
  revert h
  revert n
  decide

theorem charOf_ne_colon {n : Nat} (h : n < 64) : charOf '+' '/' n ≠ ':' := by
  revert h
  revert n
  decide

/-! ## §2. Encoding. -/

/-- The characters of a list of bytes, without padding. -/
def sextets : List UInt8 → List Nat
  | [] => []
  | [a] => [a.toNat / 4, a.toNat % 4 * 16]
  | [a, b] => [a.toNat / 4, a.toNat % 4 * 16 + b.toNat / 16, b.toNat % 16 * 4]
  | a :: b :: c :: rest =>
      (a.toNat / 4) :: (a.toNat % 4 * 16 + b.toNat / 16) :: (b.toNat % 16 * 4 + c.toNat / 64)
        :: (c.toNat % 64) :: sextets rest

/-- `base64.urlsafe_b64encode(data).decode().rstrip("=")`. -/
def urlsafe (data : List UInt8) : List Char := (sextets data).map (charOf '-' '_')

/-- The padding of a text to a multiple of four characters: `"=" * (-len(text) % 4)`. -/
def padding (length : Nat) : List Char := List.replicate ((4 - length % 4) % 4) '='

/-- `base64.b64encode(data).decode()`. -/
def encode (data : List UInt8) : List Char :=
  (sextets data).map (charOf '+' '/') ++ padding (sextets data).length

/-! ## §3. Decoding. -/

/-- The state of the decoder: the position in the quad, the bits that are left over, and how
    many padding characters have just been read. -/
structure Decoder where
  quad_pos : Nat := 0
  leftchar : Nat := 0
  pads : Nat := 0

/-- `binascii.a2b_base64`; `none` is `binascii.Error`. -/
def decodeFrom (s : Decoder) : List Char → Option (List UInt8)
  | [] => if s.quad_pos = 0 then some [] else none
  | c :: cs =>
      if c = '=' then
        if s.quad_pos ≥ 2 then
          if s.quad_pos + (s.pads + 1) ≥ 4 then some []
          else decodeFrom { s with pads := s.pads + 1 } cs
        else decodeFrom s cs
      else
        match sextetOf c with
        | none => decodeFrom s cs
        | some n =>
            if s.quad_pos = 0 then decodeFrom { quad_pos := 1, leftchar := n } cs
            else if s.quad_pos = 1 then
              (decodeFrom { quad_pos := 2, leftchar := n % 16 } cs).map
                (UInt8.ofNat (s.leftchar * 4 + n / 16) :: ·)
            else if s.quad_pos = 2 then
              (decodeFrom { quad_pos := 3, leftchar := n % 4 } cs).map
                (UInt8.ofNat (s.leftchar * 16 + n / 4) :: ·)
            else (decodeFrom {} cs).map (UInt8.ofNat (s.leftchar * 64 + n) :: ·)

/-- `base64.urlsafe_b64decode(text)`; `none` is a `ValueError`. -/
def urlsafeDecode (text : List Char) : Option (List UInt8) :=
  if text.all fun c => c.toNat < 128 then decodeFrom {} text else none

/-! ## §4. The round trip. -/

theorem sextets_lt (data : List UInt8) : ∀ n ∈ sextets data, n < 64 := by
  fun_induction sextets data with
  | case1 => simp
  | case2 a =>
      have := a.toNat_lt
      simp
      omega
  | case3 a b =>
      have := a.toNat_lt
      have := b.toNat_lt
      simp
      omega
  | case4 a b c rest ih =>
      have := a.toNat_lt
      have := b.toNat_lt
      have := c.toNat_lt
      simp only [List.forall_mem_cons]
      exact ⟨by omega, by omega, by omega, by omega, ih⟩

/-! One sextet of a quad. -/

section

variable {n : Nat} (h : n < 64) (l : Nat) (cs : List Char)

include h

theorem decodeFrom_first :
    decodeFrom {} (charOf '-' '_' n :: cs) = decodeFrom { quad_pos := 1, leftchar := n } cs := by
  rw [decodeFrom, if_neg (charOf_ne_pad h), sextetOf_charOf h]
  rfl

theorem decodeFrom_second :
    decodeFrom { quad_pos := 1, leftchar := l } (charOf '-' '_' n :: cs)
      = (decodeFrom { quad_pos := 2, leftchar := n % 16 } cs).map
          (UInt8.ofNat (l * 4 + n / 16) :: ·) := by
  rw [decodeFrom, if_neg (charOf_ne_pad h), sextetOf_charOf h]
  rfl

theorem decodeFrom_third :
    decodeFrom { quad_pos := 2, leftchar := l } (charOf '-' '_' n :: cs)
      = (decodeFrom { quad_pos := 3, leftchar := n % 4 } cs).map
          (UInt8.ofNat (l * 16 + n / 4) :: ·) := by
  rw [decodeFrom, if_neg (charOf_ne_pad h), sextetOf_charOf h]
  rfl

theorem decodeFrom_fourth :
    decodeFrom { quad_pos := 3, leftchar := l } (charOf '-' '_' n :: cs)
      = (decodeFrom {} cs).map (UInt8.ofNat (l * 64 + n) :: ·) := by
  rw [decodeFrom, if_neg (charOf_ne_pad h), sextetOf_charOf h]
  rfl

end

theorem ofNat_eq {a : UInt8} {n : Nat} (h : n = a.toNat) : UInt8.ofNat n = a := by
  rw [h, UInt8.ofNat_toNat]

/-- **Decoding an encoding, padded again, gives the bytes back.** -/
theorem decode_urlsafe (data : List UInt8) :
    decodeFrom {} (urlsafe data ++ padding (urlsafe data).length) = some data := by
  unfold urlsafe
  fun_induction sextets data with
  | case1 => rfl
  | case2 a =>
      have ha := a.toNat_lt
      have hbyte : UInt8.ofNat (a.toNat / 4 * 4 + a.toNat % 4 * 16 / 16) = a :=
        ofNat_eq (by omega)
      simp only [List.map_cons, List.map_nil, List.cons_append, List.nil_append]
      rw [decodeFrom_first (by omega), decodeFrom_second (by omega), hbyte]
      rfl
  | case3 a b =>
      have ha := a.toNat_lt
      have hb := b.toNat_lt
      have hfirst : UInt8.ofNat (a.toNat / 4 * 4 + (a.toNat % 4 * 16 + b.toNat / 16) / 16) = a :=
        ofNat_eq (by omega)
      have hsecond : UInt8.ofNat ((a.toNat % 4 * 16 + b.toNat / 16) % 16 * 16
          + b.toNat % 16 * 4 / 4) = b := ofNat_eq (by omega)
      simp only [List.map_cons, List.map_nil, List.cons_append, List.nil_append]
      rw [decodeFrom_first (by omega), decodeFrom_second (by omega), decodeFrom_third (by omega),
        hfirst, hsecond]
      rfl
  | case4 a b c rest ih =>
      have ha := a.toNat_lt
      have hb := b.toNat_lt
      have hc := c.toNat_lt
      have hfirst : UInt8.ofNat (a.toNat / 4 * 4 + (a.toNat % 4 * 16 + b.toNat / 16) / 16) = a :=
        ofNat_eq (by omega)
      have hsecond : UInt8.ofNat ((a.toNat % 4 * 16 + b.toNat / 16) % 16 * 16
          + (b.toNat % 16 * 4 + c.toNat / 64) / 4) = b := ofNat_eq (by omega)
      have hthird : UInt8.ofNat ((b.toNat % 16 * 4 + c.toNat / 64) % 4 * 64 + c.toNat % 64) = c :=
        ofNat_eq (by omega)
      -- a full quad does not change the padding
      have hpad : padding ((sextets rest).map (charOf '-' '_')).length.succ.succ.succ.succ
          = padding ((sextets rest).map (charOf '-' '_')).length := by
        unfold padding
        congr 1
        omega
      simp only [List.map_cons, List.cons_append, List.length_cons]
      rw [decodeFrom_first (by omega), decodeFrom_second (by omega), decodeFrom_third (by omega),
        decodeFrom_fourth (by omega), hfirst, hsecond, hthird, hpad, ih]
      rfl

/-- The characters of an encoding are ASCII. -/
theorem urlsafe_ascii (data : List UInt8) : ∀ c ∈ urlsafe data, c.toNat < 128 := by
  intro c hc
  obtain ⟨n, hn, rfl⟩ := List.mem_map.mp hc
  exact charOf_ascii (sextets_lt data n hn)

/-- An encoding of the standard alphabet holds no separator. -/
theorem encode_ne_colon (data : List UInt8) : ∀ c ∈ encode data, c ≠ ':' := by
  intro c hc
  unfold encode at hc
  rcases List.mem_append.mp hc with hc | hc
  · obtain ⟨n, hn, rfl⟩ := List.mem_map.mp hc
    exact charOf_ne_colon (sextets_lt data n hn)
  · rw [List.eq_of_mem_replicate hc]
    decide

/-- `urlsafe_b64decode(token + "=" * (-len(token) % 4))` of an encoding. -/
theorem urlsafeDecode_urlsafe (data : List UInt8) :
    urlsafeDecode (urlsafe data ++ padding (urlsafe data).length) = some data := by
  unfold urlsafeDecode
  rw [if_pos, decode_urlsafe]
  rw [List.all_eq_true]
  intro c hc
  rcases List.mem_append.mp hc with hc | hc
  · exact decide_eq_true (urlsafe_ascii data c hc)
  · rw [List.eq_of_mem_replicate hc]
    rfl

end PyBoard.Base64
