/-
  PyBoard.Python.Between — `re.sub("start.*?stop", "", text, flags=re.S)`.

  The pattern matches from a start mark to the first stop mark after it.  The texts are lists
  of anything that has a character, so that it can be followed where each character goes.

  Main results:
    * `map_removeBetween` — what is removed depends on the characters alone.
    * `removeBetween_hides_iff` — when nothing is left of what stands between two marks.
-/
import Mathlib.Data.List.Basic

namespace PyBoard.Between

variable {α χ : Type}

/-! ## §1. The substitution. -/

section

variable [DecidableEq χ] (char : α → χ) (start stop : List χ)

/-- The text begins with a mark. -/
def beginsWith (mark : List χ) (l : List α) : Bool := mark.isPrefixOf (l.map char)

/-- The place of the first mark. -/
def findMark (mark : List χ) : List α → Option Nat
  | [] => if beginsWith char mark [] then some 0 else none
  | x :: l =>
      if beginsWith char mark (x :: l) then some 0 else (findMark mark l).map (· + 1)

/-- The length of the match at the beginning of a text. -/
def matchLength (l : List α) : Option Nat :=
  if beginsWith char start l then
    (findMark char stop (l.drop start.length)).map fun i => start.length + i + stop.length
  else none

/-- The text without its matches, after `skip` characters. -/
def scan (skip : Nat) : List α → List α
  | [] => []
  | x :: l =>
      match skip with
      | skip + 1 => scan skip l
      | 0 =>
          match matchLength char start stop (x :: l) with
          | some n => scan (n - 1) l
          | none => x :: scan 0 l

/-- `re.sub("start.*?stop", "", text, flags=re.S)`. -/
def removeBetween (l : List α) : List α := scan char start stop 0 l

end

example : removeBetween id "<".toList ">".toList "a<b>c<<d>e>f>".toList = "ace>f>".toList := by
  decide

/-! ## §2. Only the characters count. -/

section

variable {β : Type} [DecidableEq χ] {char : α → χ} {start stop : List χ}

theorem findMark_map (f : β → α) (mark : List χ) (l : List β) :
    findMark char mark (l.map f) = findMark (char ∘ f) mark l := by
  induction l with
  | nil => rfl
  | cons x l ih =>
      rw [List.map_cons]
      unfold findMark beginsWith
      rw [ih, ← List.map_cons, List.map_map]

theorem matchLength_map (f : β → α) (l : List β) :
    matchLength char start stop (l.map f) = matchLength (char ∘ f) start stop l := by
  unfold matchLength beginsWith
  rw [List.map_map, ← List.map_drop, findMark_map]

theorem scan_map (f : β → α) (skip : Nat) (l : List β) :
    scan char start stop skip (l.map f) = (scan (char ∘ f) start stop skip l).map f := by
  induction l generalizing skip with
  | nil => rfl
  | cons x l ih =>
      rw [List.map_cons]
      unfold scan
      cases skip with
      | succ skip => exact ih skip
      | zero =>
          dsimp only
          rw [← List.map_cons, matchLength_map]
          cases matchLength (char ∘ f) start stop (x :: l) with
          | some n => exact ih (n - 1)
          | none =>
              rw [List.map_cons]
              exact congrArg _ (ih 0)

/-- **What is removed depends on the characters alone.** -/
theorem map_removeBetween (f : β → α) (l : List β) :
    removeBetween char start stop (l.map f) = (removeBetween (char ∘ f) start stop l).map f :=
  scan_map f 0 l

theorem scan_sublist (skip : Nat) (l : List α) : (scan char start stop skip l).Sublist l := by
  induction l generalizing skip with
  | nil => exact List.Sublist.refl _
  | cons x l ih =>
      unfold scan
      cases skip with
      | succ skip => exact (ih skip).cons x
      | zero =>
          dsimp only
          cases matchLength char start stop (x :: l) with
          | some n => exact (ih (n - 1)).cons x
          | none => exact (ih 0).cons_cons x

end

/-! ## §3. The two states of a scan. -/

section

variable [DecidableEq χ] {char : α → χ} {start stop : List χ}

/-- What is left after the first stop mark of a text, if there is one. -/
def scanInside (char : α → χ) (start stop : List χ) (l : List α) : List α :=
  scan char start stop (((findMark char stop l).getD 0) + stop.length) l

theorem scan_add (l l' : List α) (skip : Nat) :
    scan char start stop (l.length + skip) (l ++ l') = scan char start stop skip l' := by
  induction l with
  | nil => simp
  | cons x l ih =>
      rw [List.length_cons, show l.length + 1 + skip = l.length + skip + 1 by omega]
      exact ih

theorem beginsWith_iff {mark : List χ} {l : List α} :
    beginsWith char mark l = true ↔ mark <+: l.map char := List.isPrefixOf_iff_prefix

theorem beginsWith_append {mark : List χ} {a : List α} (h : a.map char = mark) (l : List α) :
    beginsWith char mark (a ++ l) = true := by
  rw [beginsWith_iff, List.map_append, h]
  exact List.prefix_append _ _

theorem findMark_of_begins {mark : List χ} {l : List α} (h : beginsWith char mark l = true) :
    findMark char mark l = some 0 := by
  cases l with
  | nil => exact if_pos h
  | cons x l => exact if_pos h

/-- Inside, the stop mark ends the match. -/
theorem scanInside_stop {a l : List α} (h : a.map char = stop) :
    scanInside char start stop (a ++ l) = scan char start stop 0 l := by
  have hfind := findMark_of_begins (beginsWith_append h l)
  have hlength : stop.length = a.length := by rw [← h, List.length_map]
  unfold scanInside
  rw [hfind, Option.getD_some, Nat.zero_add, hlength]
  exact scan_add a l 0

variable (start) in
/-- Inside, any other character is dropped. -/
theorem scanInside_cons {x : α} {l : List α} (h : beginsWith char stop (x :: l) = false)
    (hstop : (findMark char stop l).isSome) :
    scanInside char start stop (x :: l) = scanInside char start stop l := by
  obtain ⟨i, hi⟩ := Option.isSome_iff_exists.mp hstop
  have hfind : findMark char stop (x :: l) = some (i + 1) := by
    show (if _ then _ else _) = _
    rw [if_neg (by simp [h]), hi]
    rfl
  unfold scanInside
  rw [hfind, hi, Option.getD_some, Option.getD_some,
    show i + 1 + stop.length = i + stop.length + 1 by omega]
  rfl

/-- Outside, a start mark begins a match if a stop mark follows. -/
theorem scan_start {a l : List α} (h : a.map char = start) (hne : start ≠ [])
    (hstop : (findMark char stop l).isSome) :
    scan char start stop 0 (a ++ l) = scanInside char start stop l := by
  obtain ⟨i, hi⟩ := Option.isSome_iff_exists.mp hstop
  have hlength : start.length = a.length := by rw [← h, List.length_map]
  cases a with
  | nil => exact absurd h.symm (by simpa using hne)
  | cons x a =>
      have hmatch : matchLength char start stop (x :: a ++ l) =
          some (start.length + i + stop.length) := by
        unfold matchLength
        rw [if_pos (beginsWith_append h l), hlength, List.drop_left, hi]
        rfl
      show (match matchLength char start stop (x :: a ++ l) with
        | some n => scan char start stop (n - 1) (a ++ l)
        | none => x :: scan char start stop 0 (a ++ l)) = _
      rw [hmatch]
      dsimp only
      rw [hlength, List.length_cons,
        show a.length + 1 + i + stop.length - 1 = a.length + (i + stop.length) by omega, scan_add]
      unfold scanInside
      rw [hi, Option.getD_some]

variable (stop) in
/-- Outside, any other character is kept. -/
theorem scan_cons {x : α} {l : List α} (h : beginsWith char start (x :: l) = false) :
    scan char start stop 0 (x :: l) = x :: scan char start stop 0 l := by
  have hmatch : matchLength char start stop (x :: l) = none := by
    unfold matchLength
    exact if_neg (by simp [h])
  show (match matchLength char start stop (x :: l) with
    | some n => scan char start stop (n - 1) l
    | none => x :: scan char start stop 0 l) = _
  rw [hmatch]

/-- A mark that stands in a text is found. -/
theorem findMark_isSome (a : List α) {b l : List α} (h : b.map char = stop) :
    (findMark char stop (a ++ (b ++ l))).isSome := by
  induction a with
  | nil =>
      rw [List.nil_append, findMark_of_begins (beginsWith_append h l)]
      rfl
  | cons x a ih =>
      rw [List.cons_append]
      unfold findMark
      split
      · rfl
      · rw [Option.isSome_map]
        exact ih

end

/-! ## §4. What stands between two marks. -/

/-- Marks that begin with a character which they do not have again, none of them with the
    other. -/
structure Marks (first : χ) (start stop : List χ) : Prop where
  starts : ∃ rest, start = first :: rest ∧ first ∉ rest
  stops : ∃ rest, stop = first :: rest ∧ first ∉ rest
  apart : ¬start <+: stop ∧ ¬stop <+: start

/-- In a text every stop mark is followed at once by a start mark, or ends the text. -/
def Seamless (start stop l : List χ) : Prop :=
  ∀ a b, l = a ++ (stop ++ b) → b = [] ∨ start <+: b

section

variable {first : χ} {start stop : List χ}

/-- A mark does not run into the mark that follows. -/
theorem prefix_of_append {mark b t : List χ} (hmark : ∃ rest, mark = first :: rest ∧ first ∉ rest)
    (h : mark <+: b ++ first :: t) : b = [] ∨ mark <+: b := by
  obtain ⟨rest, rfl, hfirst⟩ := hmark
  cases b with
  | nil => exact Or.inl rfl
  | cons c b =>
      right
      rw [List.cons_append, List.cons_prefix_cons] at h
      refine List.cons_prefix_cons.mpr ⟨h.1, ?_⟩
      by_contra hnot
      obtain ⟨l, hl⟩ := h.2
      obtain hlong | hshort := List.prefix_or_prefix_of_prefix (List.prefix_append rest l)
        (show b <+: rest ++ l by rw [hl]; exact List.prefix_append _ _)
      · exact hnot hlong
      · -- the rest of the mark would reach the first character of the next
        obtain ⟨r, rfl⟩ := hshort
        rw [List.append_assoc, List.append_cancel_left_eq] at hl
        cases r with
        | nil => exact hnot (by simp)
        | cons d r =>
            rw [List.cons_append, List.cons.injEq] at hl
            exact hfirst (by simp [hl.1])

/-- A mark does not begin within another one. -/
theorem append_eq_append_of_marks {mark mark' a b b' : List χ}
    (hmark : ∃ rest, mark = first :: rest ∧ first ∉ rest)
    (hmark' : ∃ rest, mark' = first :: rest ∧ first ∉ rest)
    (h : mark ++ b = a ++ (mark' ++ b')) :
    a = [] ∨ ∃ a', a = mark ++ a' ∧ b = a' ++ (mark' ++ b') := by
  obtain ⟨rest', hrest', -⟩ := hmark'
  obtain ⟨a', ha, hb⟩ | ⟨c, hc, hb⟩ := List.append_eq_append_iff.mp h
  · exact Or.inr ⟨a', ha, hb⟩
  · cases c with
    | nil => exact Or.inr ⟨[], by simpa using hc.symm, by simpa using hb.symm⟩
    | cons e c =>
        -- the second mark would begin within the first
        left
        obtain ⟨rest, rfl, hfirst⟩ := hmark
        cases a with
        | nil => rfl
        | cons d a =>
            rw [hrest', List.cons_append, List.cons_append, List.cons.injEq] at hb
            rw [List.cons_append, List.cons.injEq] at hc
            exact absurd (by rw [hc.2]; simp [hb.1]) hfirst

theorem Marks.stop_ne_nil (h : Marks first start stop) : stop ≠ [] := by
  obtain ⟨rest, rfl, -⟩ := h.stops
  exact List.cons_ne_nil _ _

theorem Marks.start_ne_nil (h : Marks first start stop) : start ≠ [] := by
  obtain ⟨rest, rfl, -⟩ := h.starts
  exact List.cons_ne_nil _ _

/-- No text begins with both. -/
theorem Marks.append_ne (h : Marks first start stop) (l l' : List χ) : start ++ l ≠ stop ++ l' := by
  intro heq
  obtain hle | hle := List.prefix_or_prefix_of_prefix (List.prefix_append start l)
    (show stop <+: start ++ l by rw [heq]; exact List.prefix_append _ _)
  · exact h.apart.1 hle
  · exact h.apart.2 hle

theorem seamless_nil (h : Marks first start stop) : Seamless start stop [] := by
  intro a b hnil
  have := congrArg List.length hnil
  have hpos := List.length_pos_iff.mpr h.stop_ne_nil
  simp at this
  omega

/-- A character that begins no stop mark. -/
theorem seamless_cons {c : χ} {l : List χ} (hc : ¬stop <+: c :: l) :
    Seamless start stop (c :: l) ↔ Seamless start stop l := by
  constructor
  · intro h a b hl
    exact h (c :: a) b (by rw [hl]; rfl)
  · intro h a b hl
    cases a with
    | nil =>
        rw [List.nil_append] at hl
        exact absurd ⟨b, hl.symm⟩ hc
    | cons d a =>
        rw [List.cons_append, List.cons.injEq] at hl
        exact h a b hl.2

/-- A stop mark is followed by nothing, or by a start mark and a text of the same kind. -/
theorem seamless_stop (h : Marks first start stop) (b : List χ) :
    Seamless start stop (stop ++ b) ↔ b = [] ∨ ∃ l, b = start ++ l ∧ Seamless start stop l := by
  constructor
  · intro hs
    obtain hnil | ⟨l, hl⟩ := hs [] b rfl
    · exact Or.inl hnil
    · refine Or.inr ⟨l, hl.symm, fun a b' hb' => hs (stop ++ (start ++ a)) b' ?_⟩
      rw [← hl, hb']
      simp only [List.append_assoc]
  · intro hb a b' heq
    obtain rfl | ⟨a', rfl, ha'⟩ := append_eq_append_of_marks h.stops h.stops heq
    · rw [List.nil_append, List.append_cancel_left_eq] at heq
      obtain rfl | ⟨l, rfl, -⟩ := hb
      · exact Or.inl heq.symm
      · exact Or.inr ⟨l, heq⟩
    · obtain rfl | ⟨l, rfl, hl⟩ := hb
      · have hnil := (List.append_eq_nil_iff.mp ha'.symm).2
        exact absurd (List.append_eq_nil_iff.mp hnil).1 h.stop_ne_nil
      · obtain rfl | ⟨a'', rfl, ha''⟩ := append_eq_append_of_marks h.starts h.stops ha'
        · exact absurd ha' (h.append_ne l b')
        · exact hl a'' b' ha''

variable [DecidableEq χ] {char : α → χ} {P : α → Prop}

/-- A mark before a text that begins with the first character lies before it. -/
theorem begins_within {mark t : List χ} (hmark : ∃ rest, mark = first :: rest ∧ first ∉ rest)
    {b l : List α} (hl : l.map char = first :: t) (h : beginsWith char mark (b ++ l) = true) :
    b = [] ∨ mark <+: b.map char := by
  rw [beginsWith_iff, List.map_append, hl] at h
  exact (prefix_of_append hmark h).imp_left List.map_eq_nil_iff.mp

omit [DecidableEq χ] in
/-- The mark at the beginning of a text. -/
theorem split_mark {mark : List χ} (hne : mark ≠ []) {l : List α} (h : mark <+: l.map char) :
    ∃ a r, l = a ++ r ∧ a.map char = mark ∧ r.length < l.length := by
  obtain ⟨b, hb⟩ := h
  obtain ⟨a, r, rfl, ha, -⟩ := List.map_eq_append_iff.mp hb.symm
  refine ⟨a, r, rfl, ha, ?_⟩
  have hpos : 0 < a.length := by
    rw [← List.length_map (f := char), ha]
    exact List.length_pos_iff.mpr hne
  rw [List.length_append]
  omega

/-- What of a text is kept, inside and outside, before a stop mark. -/
theorem scan_hides_iff (h : Marks first start stop) {e post : List α} (he : e.map char = stop)
    (hpost : ∀ x ∈ e ++ post, ¬P x) (n : Nat) (mid : List α) (hn : mid.length ≤ n)
    (hmid : ∀ x ∈ mid, P x) :
    ((∀ x ∈ scanInside char start stop (mid ++ (e ++ post)), ¬P x) ↔
      Seamless start stop (mid.map char)) ∧
    ((∀ x ∈ scan char start stop 0 (mid ++ (e ++ post)), ¬P x) ↔
      mid = [] ∨ ∃ l, mid.map char = start ++ l ∧ Seamless start stop l) := by
  have hkept : ∀ l : List α, (∀ x ∈ l, ¬P x) → ∀ x ∈ scan char start stop 0 l, ¬P x :=
    fun l hl x hx => hl x ((scan_sublist 0 l).subset hx)
  have htail : ∀ x ∈ post, ¬P x := fun x hx => hpost x (List.mem_append_right _ hx)
  obtain ⟨rest, hrest, -⟩ := h.stops
  have hfirst : (e ++ post).map char = first :: (rest ++ post.map char) := by
    rw [List.map_append, he, hrest, List.cons_append]
  induction n generalizing mid with
  | zero =>
      obtain rfl : mid = [] := List.length_eq_zero_iff.mp (by omega)
      rw [List.nil_append, scanInside_stop he]
      exact ⟨iff_of_true (hkept post htail) (seamless_nil h),
        iff_of_true (hkept _ hpost) (Or.inl rfl)⟩
  | succ n ih =>
      cases mid with
      | nil => exact ih [] (Nat.zero_le n) hmid
      | cons x m =>
          have hwithin : ∀ {mark : List χ}, (∃ rest, mark = first :: rest ∧ first ∉ rest) →
              ¬mark <+: (x :: m).map char →
              beginsWith char mark (x :: (m ++ (e ++ post))) = false := by
            intro mark hmark hnot
            rw [Bool.eq_false_iff]
            intro hbegins
            rw [← List.cons_append] at hbegins
            cases begins_within hmark hfirst hbegins with
            | inl hnil => cases hnil
            | inr hprefix => exact hnot hprefix
          have hrec : ∀ {a r : List α}, x :: m = a ++ r → r.length < (x :: m).length →
              r.length ≤ n ∧ ∀ y ∈ r, P y := by
            intro a r hr hlen
            exact ⟨by omega, fun y hy => hmid y (hr ▸ List.mem_append_right _ hy)⟩
          constructor
          · by_cases hstop : stop <+: (x :: m).map char
            · obtain ⟨a, r, hr, ha, hlen⟩ := split_mark h.stop_ne_nil hstop
              obtain ⟨hlen, hP⟩ := hrec hr hlen
              rw [hr, List.append_assoc, scanInside_stop ha, (ih r hlen hP).2, List.map_append, ha,
                seamless_stop h, List.map_eq_nil_iff]
            · rw [List.cons_append,
                scanInside_cons start (hwithin h.stops hstop) (findMark_isSome m he),
                (ih m (by simpa using hn) fun y hy => hmid y (List.mem_cons_of_mem _ hy)).1,
                List.map_cons, seamless_cons hstop]
          · by_cases hstart : start <+: (x :: m).map char
            · obtain ⟨a, r, hr, ha, hlen⟩ := split_mark h.start_ne_nil hstart
              obtain ⟨hlen, hP⟩ := hrec hr hlen
              rw [hr, List.append_assoc, scan_start ha h.start_ne_nil (findMark_isSome r he),
                (ih r hlen hP).1, List.map_append, ha]
              constructor
              · exact fun hs => Or.inr ⟨_, rfl, hs⟩
              · rintro (hnil | ⟨l, hl, hs⟩)
                · rw [← hr] at hnil
                  cases hnil
                · rw [List.append_cancel_left_eq] at hl
                  rw [hl]
                  exact hs
            · rw [List.cons_append, scan_cons stop (hwithin h.starts hstart)]
              refine iff_of_false
                (fun hall => hall x List.mem_cons_self (hmid x List.mem_cons_self))
                ?_
              rintro (hnil | ⟨l, hl, -⟩)
              · cases hnil
              · exact hstart ⟨l, hl.symm⟩

/-- A start mark is passed over inside. -/
theorem scanInside_start (h : Marks first start stop) {a l : List α} (ha : a.map char = start)
    (hstop : (findMark char stop l).isSome) :
    scanInside char start stop (a ++ l) = scanInside char start stop l := by
  obtain ⟨rest, hrest, hfirst⟩ := h.starts
  obtain ⟨rest', hrest', -⟩ := h.stops
  have hfound : ∀ b : List α, (findMark char stop (b ++ l)).isSome := by
    intro b
    induction b with
    | nil => exact hstop
    | cons x b ih =>
        rw [List.cons_append]
        unfold findMark
        split
        · rfl
        · rw [Option.isSome_map]
          exact ih
  -- no stop mark begins after the first character of the start mark
  have hpass : ∀ b : List α, first ∉ b.map char →
      scanInside char start stop (b ++ l) = scanInside char start stop l := by
    intro b hb
    induction b with
    | nil => rfl
    | cons x b ih =>
        rw [List.map_cons, List.mem_cons, not_or] at hb
        have hnot : beginsWith char stop (x :: (b ++ l)) = false := by
          rw [Bool.eq_false_iff]
          intro hbegins
          rw [beginsWith_iff, hrest', List.map_cons, List.cons_prefix_cons] at hbegins
          exact hb.1 hbegins.1
        rw [List.cons_append, scanInside_cons start hnot (hfound b), ih hb.2]
  cases a with
  | nil => exact absurd ha.symm h.start_ne_nil
  | cons x a =>
      have hnot : beginsWith char stop (x :: (a ++ l)) = false := by
        rw [Bool.eq_false_iff]
        intro hbegins
        rw [beginsWith_iff, ← List.cons_append, List.map_append, ha] at hbegins
        obtain ⟨b, hb⟩ := hbegins
        exact h.append_ne _ _ hb.symm
      rw [List.cons_append, scanInside_cons start hnot (hfound a)]
      refine hpass a ?_
      rw [hrest, List.map_cons, List.cons.injEq] at ha
      rw [ha.2]
      exact hfirst

/-- What comes before a start mark leaves the scan inside. -/
theorem scan_before (h : Marks first start stop) {a mid e post : List α} (ha : a.map char = start)
    (he : e.map char = stop) (n : Nat) (pre : List α) (hn : pre.length ≤ n)
    (hpre : ∀ x ∈ pre, ¬P x) :
    ((∀ x ∈ scanInside char start stop (pre ++ (a ++ (mid ++ (e ++ post)))), ¬P x) ↔
      ∀ x ∈ scanInside char start stop (mid ++ (e ++ post)), ¬P x) ∧
    ((∀ x ∈ scan char start stop 0 (pre ++ (a ++ (mid ++ (e ++ post)))), ¬P x) ↔
      ∀ x ∈ scanInside char start stop (mid ++ (e ++ post)), ¬P x) := by
  have hfound : (findMark char stop (mid ++ (e ++ post))).isSome := findMark_isSome mid he
  obtain ⟨rest, hrest, -⟩ := h.starts
  have hfirst : (a ++ (mid ++ (e ++ post))).map char =
      first :: (rest ++ (mid ++ (e ++ post)).map char) := by
    rw [List.map_append, ha, hrest, List.cons_append]
  have hlater : ∀ l : List α,
      (findMark char stop (l ++ (a ++ (mid ++ (e ++ post))))).isSome := by
    intro l
    have hsome : (findMark char stop (l ++ (a ++ mid) ++ (e ++ post))).isSome :=
      findMark_isSome _ he
    simpa only [List.append_assoc] using hsome
  have hnil : ((∀ x ∈ scanInside char start stop (a ++ (mid ++ (e ++ post))), ¬P x) ↔
      ∀ x ∈ scanInside char start stop (mid ++ (e ++ post)), ¬P x) ∧
      ((∀ x ∈ scan char start stop 0 (a ++ (mid ++ (e ++ post))), ¬P x) ↔
      ∀ x ∈ scanInside char start stop (mid ++ (e ++ post)), ¬P x) := by
    rw [scanInside_start h ha hfound, scan_start ha h.start_ne_nil hfound]
    exact ⟨Iff.rfl, Iff.rfl⟩
  induction n generalizing pre with
  | zero =>
      obtain rfl : pre = [] := List.length_eq_zero_iff.mp (by omega)
      exact hnil
  | succ n ih =>
      cases pre with
      | nil => exact hnil
      | cons x p =>
          have hwithin : ∀ {mark : List χ}, (∃ rest, mark = first :: rest ∧ first ∉ rest) →
              ¬mark <+: (x :: p).map char →
              beginsWith char mark (x :: (p ++ (a ++ (mid ++ (e ++ post))))) = false := by
            intro mark hmark hnot
            rw [Bool.eq_false_iff]
            intro hbegins
            rw [← List.cons_append] at hbegins
            cases begins_within hmark hfirst hbegins with
            | inl hnil => cases hnil
            | inr hprefix => exact hnot hprefix
          have hrec : ∀ {b r : List α}, x :: p = b ++ r → r.length < (x :: p).length →
              r.length ≤ n ∧ ∀ y ∈ r, ¬P y := by
            intro b r hr hlen
            exact ⟨by omega, fun y hy => hpre y (hr ▸ List.mem_append_right _ hy)⟩
          have htail := ih p (by simpa using hn) fun y hy => hpre y (List.mem_cons_of_mem _ hy)
          constructor
          · by_cases hstop : stop <+: (x :: p).map char
            · obtain ⟨b, r, hr, hb, hlen⟩ := split_mark h.stop_ne_nil hstop
              obtain ⟨hlen, hP⟩ := hrec hr hlen
              rw [hr, List.append_assoc, scanInside_stop hb]
              exact (ih r hlen hP).2
            · rw [List.cons_append, scanInside_cons start (hwithin h.stops hstop) (hlater p)]
              exact htail.1
          · by_cases hstart : start <+: (x :: p).map char
            · obtain ⟨b, r, hr, hb, hlen⟩ := split_mark h.start_ne_nil hstart
              obtain ⟨hlen, hP⟩ := hrec hr hlen
              rw [hr, List.append_assoc, scan_start hb h.start_ne_nil (hlater r)]
              exact (ih r hlen hP).1
            · rw [List.cons_append, scan_cons stop (hwithin h.starts hstart)]
              simp only [List.mem_cons, forall_eq_or_imp]
              exact (and_iff_right (hpre x List.mem_cons_self)).trans htail.2

/-- **What stands between two marks leaves nothing** exactly if every stop mark in it is
    followed at once by a start mark or ends it.  `P` tells its characters from all others. -/
theorem removeBetween_hides_iff (h : Marks first start stop) {pre a mid e post : List α}
    (ha : a.map char = start) (he : e.map char = stop) (hpre : ∀ x ∈ pre, ¬P x)
    (hmid : ∀ x ∈ mid, P x) (hpost : ∀ x ∈ e ++ post, ¬P x) :
    (∀ x ∈ removeBetween char start stop (pre ++ (a ++ (mid ++ (e ++ post)))), ¬P x) ↔
      Seamless start stop (mid.map char) :=
  (scan_before h ha he pre.length pre (Nat.le_refl _) hpre).2.trans
    (scan_hides_iff h he hpost mid.length mid (Nat.le_refl _) hmid).1

end

end PyBoard.Between
