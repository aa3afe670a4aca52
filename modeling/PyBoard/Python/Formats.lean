/-
  PyBoard.Python.Formats — dicts, and what the subscription pages call.

  A dict is a list of its items in the order of insertion.  Hashes, addresses,
  URL quoting, clock formats and the template engine are parameters.
-/
import Mathlib.Data.List.Infix
import PyBoard.Python.Base64
import PyBoard.Python.Runtime

namespace PyBoard

/-- The libraries behind the texts of a subscription. -/
structure Formats where
  /-- `hashlib.md5(text.encode()).hexdigest()`. -/
  md5_hexdigest : String → String
  /-- `hashlib.sha1(text.encode()).hexdigest()`. -/
  sha1_hexdigest : String → String
  /-- `hmac.new(key.encode(), msg, hashlib.sha1).hexdigest()`. -/
  hmac_sha1_hexdigest : String → List UInt8 → String
  /-- `ipaddress.ip_address(host).version`; `none` is ValueError. -/
  ip_version : String → Option Nat
  /-- `urllib.parse.quote` and `unquote`. -/
  quote : String → String
  unquote : String → String
  /-- `time.strftime(format, time.localtime(ts))`. -/
  strftime : String → Int → String
  /-- `round(x, 2)`. -/
  round2 : PyFloat → PyFloat
  /-- `f"\x7bx:.2f\x7d"`. -/
  fixed2 : PyFloat → String
  /-- `text.split()`. -/
  split : String → List String
  /-- `_env.get_template(name).render(**context)`. -/
  render : String → JsonDict → Except PyExc String
  /-- `jwt.encode` of a payload, its `iat` and `exp` computed from a time. -/
  jwt_encode : JsonDict → Int → String

/-! ## §1. Texts. -/

/-- `needle in text`. -/
def isIn (needle text : String) : Bool := needle.toList <:+: text.toList

/-- `text.encode()`. -/
def encodeText (text : String) : List UInt8 := text.toUTF8.toList

/-- `base64.b64encode(text.encode()).decode()`. -/
def b64encode (text : String) : String := String.ofList (Base64.encode (encodeText text))

/-- `_base64_urlsafe(text.encode())`. -/
def base64Urlsafe (text : String) : String := String.ofList (Base64.urlsafe (encodeText text))

/-- `text[:length]`. -/
def textPrefix (length : Nat) (text : String) : String := String.ofList (text.toList.take length)

/-- `size < 1024`. -/
def below1024 : PyFloat → Bool
  | .finite q => q < 1024
  | .inf negative => negative
  | .nan => false

/-- The loop of `_format_bytes` over the units that are left; `fixed2` formats with two
    decimals. -/
def formatUnits (fixed2 : PyFloat → String) (size : PyFloat) : List String → String
  | [] => fixed2 size ++ " PB"
  | unit :: units =>
      if below1024 size ∨ unit = "PB" then
        if unit ≠ "B" then fixed2 size ++ " " ++ unit
        else
          match size.toInt with
          | .ok i => toString i ++ " B"
          | .error _ => " B"
      else formatUnits fixed2 (size.overInt 1024) units

/-! ## §2. Dicts. -/

/-- `d.get(k)`. -/
def dictGet (d : JsonDict) (k : String) : Json := (Json.lookup d k).getD .null

/-- `d[k] = value`. -/
def dictSet (d : JsonDict) (k : String) (value : Json) : JsonDict :=
  if d.any fun f => f.1 = k then d.map fun f => if f.1 = k then (k, value) else f
  else d ++ [(k, value)]

/-- `d.update(items)`. -/
def dictUpdate (d items : JsonDict) : JsonDict :=
  items.foldl (fun d f => dictSet d f.1 f.2) d

/-- `a or b`. -/
def Json.or (a b : Json) : Json := if a.truthy then a else b

/-- `value == text`. -/
def Json.isText (text : String) : Json → Bool
  | .str s => s = text
  | _ => false

/-- `_dict_or_empty`. -/
def dictOrEmpty : Json → JsonDict
  | .obj fields => fields
  | _ => []

/-! ## §3. What an assignment leaves. -/

theorem lookup_dictSet_of_ne (d : JsonDict) {k k' : String} (value : Json) (h : k' ≠ k) :
    Json.lookup (dictSet d k value) k' = Json.lookup d k' := by
  unfold Json.lookup dictSet
  split
  · -- the item is replaced where it stands
    congr 1
    rw [← List.map_reverse]
    induction d.reverse with
    | nil => rfl
    | cons f l ih =>
        rw [List.map_cons, List.find?_cons, List.find?_cons]
        by_cases hf : f.1 = k
        · simp only [hf, if_true, Ne.symm h, decide_false]
          exact ih
        · simp only [hf, if_false]
          split
          · rfl
          · exact ih
  · rw [List.reverse_append, List.reverse_singleton, List.singleton_append, List.find?_cons]
    simp only [Ne.symm h, decide_false]

theorem lookup_dictSet_same (d : JsonDict) (k : String) (value : Json) :
    Json.lookup (dictSet d k value) k = some value := by
  unfold Json.lookup dictSet
  split
  · next hany =>
    -- every item under the key has been given the value
    have hfound : ∃ f ∈ d.reverse, decide (f.1 = k) = true := by
      obtain ⟨f, hf, hk⟩ := List.any_eq_true.mp hany
      exact ⟨f, List.mem_reverse.mpr hf, hk⟩
    rw [← List.map_reverse]
    revert hfound
    induction d.reverse with
    | nil =>
        intro ⟨f, hf, _⟩
        cases hf
    | cons f l ih =>
        intro hfound
        rw [List.map_cons, List.find?_cons]
        by_cases hf : f.1 = k
        · simp only [hf, if_true, decide_true]
          rfl
        · simp only [hf, if_false, decide_false]
          refine ih ?_
          obtain ⟨f', hf', hk⟩ := hfound
          rcases List.mem_cons.mp hf' with rfl | hmem
          · exact absurd (of_decide_eq_true hk) hf
          · exact ⟨f', hmem, hk⟩
  · rw [List.reverse_append, List.reverse_singleton, List.singleton_append, List.find?_cons]
    simp only [decide_true]
    rfl

theorem lookup_dictSet (d : JsonDict) (k k' : String) (value : Json) :
    Json.lookup (dictSet d k value) k' = if k' = k then some value else Json.lookup d k' := by
  split
  · next h => exact h ▸ lookup_dictSet_same d k value
  · next h => exact lookup_dictSet_of_ne d value h

theorem dictGet_dictSet_of_ne (d : JsonDict) {k k' : String} (value : Json) (h : k' ≠ k) :
    dictGet (dictSet d k value) k' = dictGet d k' :=
  congrArg (Option.getD · Json.null) (lookup_dictSet_of_ne d value h)

theorem dictGet_dictSet_same (d : JsonDict) (k : String) (value : Json) :
    dictGet (dictSet d k value) k = value :=
  congrArg (Option.getD · Json.null) (lookup_dictSet_same d k value)

theorem dictGet_dictSet (d : JsonDict) (k k' : String) (value : Json) :
    dictGet (dictSet d k value) k' = if k' = k then value else dictGet d k' := by
  split
  · next h => exact h ▸ dictGet_dictSet_same d k value
  · next h => exact dictGet_dictSet_of_ne d value h

theorem dictUpdate_nil (d : JsonDict) : dictUpdate d [] = d := rfl

theorem dictUpdate_cons (d : JsonDict) (k : String) (value : Json) (items : JsonDict) :
    dictUpdate d ((k, value) :: items) = dictUpdate (dictSet d k value) items := rfl

theorem dictGet_nil (k : String) : dictGet [] k = .null := rfl

/-- A later item under the same key hides an earlier one. -/
theorem dictGet_cons (k' : String) (value : Json) (d : JsonDict) (k : String) :
    dictGet ((k', value) :: d) k =
      if d.any fun f => f.1 = k then dictGet d k else if k' = k then value else .null := by
  have hlast : Json.lookup ((k', value) :: d) k =
      (Json.lookup d k).or (if k' = k then some value else none) := by
    unfold Json.lookup
    rw [List.reverse_cons, List.find?_append]
    cases d.reverse.find? fun f => decide (f.1 = k) with
    | some f => rfl
    | none => by_cases hk : k' = k <;> simp [hk]
  unfold dictGet
  rw [hlast]
  by_cases hany : (d.any fun f => f.1 = k) = true
  · -- a found item is kept
    obtain ⟨f, hf, hk⟩ := List.any_eq_true.mp hany
    have hsome : (d.reverse.find? fun f => decide (f.1 = k)).isSome = true := by
      rw [List.find?_isSome]
      exact ⟨f, List.mem_reverse.mpr hf, hk⟩
    obtain ⟨g, hg⟩ := Option.isSome_iff_exists.mp hsome
    rw [if_pos hany]
    unfold Json.lookup
    rw [hg]
    rfl
  · have hnone : d.reverse.find? (fun f => decide (f.1 = k)) = none := by
      refine List.find?_eq_none.mpr ?_
      intro f hf hk
      exact hany (List.any_eq_true.mpr ⟨f, List.mem_reverse.mp hf, hk⟩)
    rw [if_neg hany]
    unfold Json.lookup
    rw [hnone]
    split <;> rfl

/-- Items under other keys hide nothing. -/
theorem dictGet_append_of_not_mem (d : JsonDict) {d' : JsonDict} {k : String}
    (h : k ∉ d'.map Prod.fst) : dictGet (d ++ d') k = dictGet d k := by
  have hnone : d'.reverse.find? (fun f => f.1 = k) = none := by
    refine List.find?_eq_none.mpr fun f hf => ?_
    rw [decide_eq_true_eq]
    intro heq
    exact h (heq ▸ List.mem_map_of_mem (List.mem_reverse.mp hf))
  unfold dictGet Json.lookup
  rw [List.reverse_append, List.find?_append, hnone, Option.none_or]

/-- A key that an update does not name keeps its value. -/
theorem dictGet_dictUpdate_of_not_mem (d items : JsonDict) {k : String}
    (h : ∀ f ∈ items, f.1 ≠ k) : dictGet (dictUpdate d items) k = dictGet d k := by
  unfold dictUpdate
  induction items generalizing d with
  | nil => rfl
  | cons f items ih =>
      rw [List.foldl_cons, ih _ fun f' hf' => h f' (List.mem_cons_of_mem _ hf')]
      exact dictGet_dictSet_of_ne d _ (Ne.symm (h f List.mem_cons_self))

/-- A key that an update names once has the value of the update. -/
theorem dictGet_dictUpdate_of_mem (d : JsonDict) {items : JsonDict} {k : String} {value : Json}
    (hnodup : (items.map Prod.fst).Nodup) (hmem : (k, value) ∈ items) :
    dictGet (dictUpdate d items) k = value := by
  unfold dictUpdate
  induction items generalizing d with
  | nil => cases hmem
  | cons f items ih =>
      rw [List.map_cons, List.nodup_cons] at hnodup
      rw [List.foldl_cons]
      rcases List.mem_cons.mp hmem with hf | hmem
      · rw [← hf] at hnodup ⊢
        have hkeep := dictGet_dictUpdate_of_not_mem (dictSet d k value) items (k := k) ?_
        · exact hkeep.trans (dictGet_dictSet_same d k value)
        · intro f' hf' heq
          exact hnodup.1 (List.mem_map.mpr ⟨f', hf', heq⟩)
      · exact ih _ hnodup.2 hmem

/-- A new key goes to the end. -/
theorem dictSet_of_new (d : JsonDict) {k : String} (value : Json) (h : k ∉ d.map Prod.fst) :
    dictSet d k value = d ++ [(k, value)] := by
  unfold dictSet
  rw [if_neg]
  intro hany
  obtain ⟨f, hf, hk⟩ := List.any_eq_true.mp hany
  exact h (of_decide_eq_true hk ▸ List.mem_map_of_mem hf)

/-- A known key keeps its place. -/
theorem keys_dictSet_of_known (d : JsonDict) {k : String} (value : Json) (h : k ∈ d.map Prod.fst) :
    (dictSet d k value).map Prod.fst = d.map Prod.fst := by
  obtain ⟨f, hf, hk⟩ := List.mem_map.mp h
  unfold dictSet
  rw [if_pos (List.any_eq_true.mpr ⟨f, hf, decide_eq_true hk⟩), List.map_map]
  refine List.map_congr_left fun f' _ => ?_
  show (if f'.1 = k then (k, value) else f').1 = f'.1
  split
  · next heq => exact heq.symm
  · rfl

theorem keys_dictUpdate_of_known (d items : JsonDict) (h : ∀ f ∈ items, f.1 ∈ d.map Prod.fst) :
    (dictUpdate d items).map Prod.fst = d.map Prod.fst := by
  unfold dictUpdate
  induction items generalizing d with
  | nil => rfl
  | cons f items ih =>
      have hkeys := keys_dictSet_of_known d f.2 (h f List.mem_cons_self)
      rw [List.foldl_cons, ih _ fun f' hf' => hkeys ▸ h f' (List.mem_cons_of_mem _ hf'), hkeys]

/-- New keys go to the end, in order. -/
theorem dictUpdate_of_new (d items : JsonDict) (hnodup : (items.map Prod.fst).Nodup)
    (h : ∀ f ∈ items, f.1 ∉ d.map Prod.fst) : dictUpdate d items = d ++ items := by
  unfold dictUpdate
  induction items generalizing d with
  | nil => exact (List.append_nil d).symm
  | cons f items ih =>
      rw [List.map_cons, List.nodup_cons] at hnodup
      rw [List.foldl_cons, dictSet_of_new d f.2 (h f List.mem_cons_self), ih _ hnodup.2]
      · rw [List.append_assoc]
        rfl
      · intro f' hf' hmem
        rw [List.map_append, List.mem_append] at hmem
        rcases hmem with hold | hnew
        · exact h f' (List.mem_cons_of_mem _ hf') hold
        · have heq : f'.1 = f.1 := by simpa using hnew
          exact hnodup.1 (heq ▸ List.mem_map_of_mem hf')

theorem dictUpdate_append (d items items' : JsonDict) :
    dictUpdate d (items ++ items') = dictUpdate (dictUpdate d items) items' := List.foldl_append

end PyBoard
