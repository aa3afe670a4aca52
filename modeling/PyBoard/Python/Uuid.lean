/-
  PyBoard.Python.Uuid — random identifiers as texts.

  `uuid4` is the text of `uuid.uuid4` for the bits that it draws, and `tokenHex` that of
  `secrets.token_hex`.  `isUuid` is the form that a UUID has: groups of 8, 4, 4, 4 and 12
  hexadecimal digits, joined by hyphens.
-/
import PyBoard.Python.Digits

namespace PyBoard

/-! ## §1. What is drawn. -/

/-- `secrets.token_hex(n)`, for the bytes that it draws. -/
def tokenHex {n : Nat} (bytes : BitVec (8 * n)) : String :=
  String.ofList (padded 16 (2 * n) bytes.toNat)

/-- The version and the variant of `UUID(bytes=…, version=4)`. -/
def stamped (bits : BitVec 128) : BitVec 128 :=
  let clear : BitVec 128 := ~~~(0xf000 <<< 64 ||| 0xc000 <<< 48)
  let version_4 : BitVec 128 := 4 <<< 76 ||| 0x8000 <<< 48
  bits &&& clear ||| version_4

/-- `str(uuid.uuid4())`, for the bits that it draws: `hex[:8]-hex[8:12]-…` of `'%032x'`. -/
def uuid4 (bits : BitVec 128) : String :=
  let hex := padded 16 32 (stamped bits).toNat
  String.ofList (hex.take 8 ++ '-' :: ((hex.drop 8).take 4 ++ '-' :: ((hex.drop 12).take 4 ++
    '-' :: ((hex.drop 16).take 4 ++ '-' :: hex.drop 20))))

/-! ## §2. The form of a UUID. -/

def isHexDigit (c : Char) : Bool :=
  c.isDigit || ('a' ≤ c && c ≤ 'f') || ('A' ≤ c && c ≤ 'F')

/-- Does a text have the 8-4-4-4-12 form? -/
def isUuid (text : String) : Bool :=
  let groups := text.toList.splitOn '-'
  groups.map List.length = [8, 4, 4, 4, 12] && groups.all (·.all isHexDigit)

theorem isHexDigit_digitChar : ∀ d < 16, isHexDigit (Nat.digitChar d) = true := by
  intro d hd
  interval_cases d <;> decide

theorem isHexDigit_padded (k n : Nat) : ∀ c ∈ padded 16 k n, isHexDigit c = true :=
  padded_all (by decide) isHexDigit_digitChar k n

/-- Groups of hexadecimal digits are told apart by the hyphens between them. -/
theorem splitOn_groups {groups : List (List Char)} (hne : groups ≠ [])
    (h : ∀ group ∈ groups, ∀ c ∈ group, isHexDigit c = true) :
    (['-'].intercalate groups).splitOn '-' = groups := by
  refine List.splitOn_intercalate '-' (fun group hgroup hmem => ?_) hne
  have hhyphen : isHexDigit '-' = false := by decide
  rw [h group hgroup '-' hmem] at hhyphen
  cases hhyphen

/-- **`uuid.uuid4` draws a UUID.** -/
theorem isUuid_uuid4 (bits : BitVec 128) : isUuid (uuid4 bits) = true := by
  unfold uuid4 isUuid
  have hlength : (padded 16 32 (stamped bits).toNat).length = 32 := length_padded 32 _
  have hhex := isHexDigit_padded 32 (stamped bits).toNat
  generalize padded 16 32 (stamped bits).toNat = hex at hlength hhex
  have hgroups : ∀ group ∈ [hex.take 8, (hex.drop 8).take 4, (hex.drop 12).take 4,
      (hex.drop 16).take 4, hex.drop 20], ∀ c ∈ group, isHexDigit c = true := by
    intro group hgroup c hc
    refine hhex c ?_
    simp only [List.mem_cons, List.not_mem_nil, or_false] at hgroup
    rcases hgroup with rfl | rfl | rfl | rfl | rfl
    · exact List.mem_of_mem_take hc
    · exact List.mem_of_mem_drop (List.mem_of_mem_take hc)
    · exact List.mem_of_mem_drop (List.mem_of_mem_take hc)
    · exact List.mem_of_mem_drop (List.mem_of_mem_take hc)
    · exact List.mem_of_mem_drop hc
  have hsplit := splitOn_groups (by simp) hgroups
  have htext : hex.take 8 ++ '-' :: ((hex.drop 8).take 4 ++ '-' :: ((hex.drop 12).take 4 ++
      '-' :: ((hex.drop 16).take 4 ++ '-' :: hex.drop 20))) =
      ['-'].intercalate [hex.take 8, (hex.drop 8).take 4, (hex.drop 12).take 4,
        (hex.drop 16).take 4, hex.drop 20] := by
    simp [List.intercalate, List.intersperse]
  dsimp only
  rw [String.toList_ofList, htext, hsplit, Bool.and_eq_true, decide_eq_true_eq]
  constructor
  · simp [hlength]
  · exact List.all_eq_true.mpr fun group hgroup => List.all_eq_true.mpr (hgroups group hgroup)

/-- `secrets.token_hex` draws none: there is no hyphen. -/
theorem isUuid_tokenHex {n : Nat} (bytes : BitVec (8 * n)) : isUuid (tokenHex bytes) = false := by
  have hgroup : ∀ group ∈ [padded 16 (2 * n) bytes.toNat], ∀ c ∈ group, isHexDigit c = true := by
    intro group hgroup
    rw [List.mem_singleton.mp hgroup]
    exact isHexDigit_padded _ _
  have hsplit := splitOn_groups (by simp) hgroup
  rw [show ['-'].intercalate [padded 16 (2 * n) bytes.toNat] = padded 16 (2 * n) bytes.toNat by
    simp [List.intercalate]] at hsplit
  unfold tokenHex isUuid
  rw [String.toList_ofList, hsplit]
  dsimp only
  rw [Bool.and_eq_false_iff, decide_eq_false_iff_not]
  left
  simp

end PyBoard
