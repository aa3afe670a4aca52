/-
  PyBoard.Results.Redaction — what the log keeps of a query.

  `collected` is what a dict holds of the values that were stored under one key: a single
  value alone, several as a list.  A step of the loop stores one value more (`collect_step`),
  so in the end every key holds what was stored under it (`lookup_redactQuery`), which is a
  mask if the key is sensitive.

  Main result: `redactQuery_hides_and_keeps`.
-/
import PyBoard.Core.RequestLogging
import PyBoard.Python.Utc

namespace PyBoard.RequestLogging

variable {rt : Runtime}

/-! ## §1. One key. -/

/-- The values of a key, as the dict holds them. -/
def collected : List String → Option Json
  | [] => none
  | [value] => some (.str value)
  | values => some (.arr (values.map .str))

/-- The values that are stored under a key, in their order. -/
def storedUnder (key : String) (items : List (String × String)) : List String :=
  (items.filter fun item => item.1 = key).map (·.2)

/-- **One step**: a value more under its key, and nothing else. -/
theorem collect_step {redacted : JsonDict} {values : List String} {key : String}
    (h : Json.lookup redacted key = collected values) (stored : String) (k : String) :
    Json.lookup (collect redacted key stored) k =
      if k = key then collected (values ++ [stored]) else Json.lookup redacted k := by
  unfold collect
  rw [h]
  cases values with
  | nil => exact lookup_dictSet redacted key k (.str stored)
  | cons value values =>
      cases values with
      | nil => exact lookup_dictSet redacted key k (.arr [.str value, .str stored])
      | cons value' values =>
          show Json.lookup (dictSet redacted key _) k = _
          rw [lookup_dictSet, ← List.map_singleton, ← List.map_append]
          rfl

/-- **The whole loop**: every key holds the values that were stored under it. -/
theorem lookup_foldl_collect (items : List (String × String)) (key : String) :
    Json.lookup (items.foldl (fun redacted item => collect redacted item.1 item.2) []) key
      = collected (storedUnder key items) := by
  induction items using List.reverseRecOn generalizing key with
  | nil => rfl
  | append_singleton items item ih =>
      rw [List.foldl_append, List.foldl_cons, List.foldl_nil, collect_step (ih item.1)]
      unfold storedUnder
      rw [List.filter_append, List.map_append]
      by_cases hkey : key = item.1
      · rw [if_pos hkey, List.filter_cons_of_pos (by simp [hkey]), hkey]
        rfl
      · rw [if_neg hkey, List.filter_cons_of_neg (by simp [Ne.symm hkey]), ih key]
        simp only [List.filter_nil, List.map_nil, List.append_nil]
        rfl

/-! ## §2. The query. -/

/-- The items, with what is stored of them. -/
def masked (rt : Runtime) (items : List (String × String)) : List (String × String) :=
  items.map fun item => (item.1, storedValue rt item)

theorem redactQuery_eq (items : List (String × String)) :
    redactQuery rt items =
      (masked rt items).foldl (fun redacted item => collect redacted item.1 item.2) [] := by
  unfold redactQuery masked
  rw [List.foldl_map]

theorem lookup_redactQuery (items : List (String × String)) (key : String) :
    Json.lookup (redactQuery rt items) key = collected (storedUnder key (masked rt items)) := by
  rw [redactQuery_eq, lookup_foldl_collect]

/-- Nothing is stored of the values under a sensitive key. -/
theorem masked_congr {items items' : List (String × String)}
    (h : List.Forall₂ (fun item item' => item.1 = item'.1 ∧
      (isSensitiveKey rt item.1 = false → item.2 = item'.2)) items items') :
    masked rt items = masked rt items' := by
  unfold masked
  induction h with
  | nil => rfl
  | @cons item item' _ _ hitem _ ih =>
      obtain ⟨key, value⟩ := item
      obtain ⟨key', value'⟩ := item'
      obtain ⟨hkey, hvalue⟩ := hitem
      dsimp only at hkey hvalue
      subst hkey
      rw [List.map_cons, List.map_cons, ih]
      unfold storedValue
      cases hsensitive : isSensitiveKey rt key with
      | true => rfl
      | false => rw [hvalue hsensitive]

/-- All is stored of the values under another key. -/
theorem storedUnder_masked {key : String} (hkey : isSensitiveKey rt key = false)
    (items : List (String × String)) :
    storedUnder key (masked rt items) = storedUnder key items := by
  unfold storedUnder masked
  rw [List.filter_map, List.map_map]
  refine List.map_congr_left fun item hitem => ?_
  have hitem : item.1 = key := by simpa using List.of_mem_filter hitem
  show storedValue rt item = item.2
  unfold storedValue
  rw [hitem, hkey]
  rfl

/-- **What is logged of a query** does not depend on the values under sensitive keys, and
    holds the values of every other key, with their multiplicity and order. -/
theorem redactQuery_hides_and_keeps (items : List (String × String)) :
    (∀ items', List.Forall₂ (fun item item' => item.1 = item'.1 ∧
        (isSensitiveKey rt item.1 = false → item.2 = item'.2)) items items' →
      redactQuery rt items' = redactQuery rt items) ∧
    ∀ key, isSensitiveKey rt key = false →
      Json.lookup (redactQuery rt items) key =
        match (items.filter fun item => item.1 = key).map (·.2) with
        | [] => none
        | [value] => some (.str value)
        | values => some (.arr (values.map .str)) := by
  constructor
  · intro items' h
    rw [redactQuery_eq, redactQuery_eq, masked_congr h]
  · intro key hkey
    rw [lookup_redactQuery, storedUnder_masked hkey]
    rfl

example : Json.lookup (redactQuery Utc.bare [("q", "a"), ("Token", "x"), ("q", "b"),
  ("Token", "y")])
    "Token" = some (.arr [.str "***", .str "***"]) := by decide +kernel

end PyBoard.RequestLogging
