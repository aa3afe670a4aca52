/-
  PyBoard.Relational.Checked — a column kept unique by looking first.

  No constraint of a table says that its rows have different tags; a program looks for a tag
  before it stores a row with it.  That keeps the tags apart as long as nobody else takes
  one of the tags that the program may take while it is live: `Unused.commit` says that
  the commit of another program leaves such a tag alone, and `Tagged.commit` that the tags
  stay apart.

  Main definitions:
    * `Tagged`, `Unused`.
    * `Retags` — what a session that has looked first stores.
    * `Adds`, `Moves` — sessions that have added rows, or updated one.
-/
import PyBoard.Relational.Keyed

namespace PyBoard.Relational

open Schema

variable {L T : Type} [Schema T] [DecidableEq T] {ε κ : Type} {t : T}

/-! ## §1. Tags. -/

section

variable (tag : Row t → κ)

/-- No two rows have the same tag. -/
def Tagged (db : DB T) : Prop :=
  ∀ r ∈ (db t).rows, ∀ r' ∈ (db t).rows, tag r = tag r' → r = r'

/-- No row has the tag. -/
def Unused (c : κ) (db : DB T) : Prop := ∀ r ∈ (db t).rows, tag r ≠ c

/-- **The session has looked first**: it stores rows with tags that it may take and that are
    unused, and new versions of rows with their tags. -/
structure Retags (takes : κ → Prop) (s : State T) (ss : Session T) : Prop where
  put : ∀ r, .put t r ∈ ss.ws → (takes (tag r) ∧ Unused tag (tag r) s.db) ∨
    ∃ cur, (s.db t).get? (key r) = some cur ∧ tag cur = tag r
  apart : ∀ r r', .put t r ∈ ss.ws → .put t r' ∈ ss.ws → tag r = tag r' → key r = key r'

end

variable {tag : Row t → κ} {takes : κ → Prop} {s s' : State T} {ss : Session T}

/-- A row of the view is committed, or the session has stored it. -/
theorem mem_view {r : Row t} (h : r ∈ (s.view ss t).rows) :
    r ∈ (s.db t).rows ∨ .put t r ∈ ss.ws :=
  (DB.get?_apply_some (Table.get?_of_mem h)).imp_left Table.mem_of_get?

/-- A tag that is unused stays so when a session commits that may not take it. -/
theorem Unused.commit {c : κ} (h : Unused tag c s.db) (hss : Retags tag takes s ss)
    (hc : ¬takes c) : Unused tag c (s.view ss) := by
  intro r hr
  rcases mem_view hr with hr | hput
  · exact h r hr
  · rcases hss.put r hput with ⟨htakes, -⟩ | ⟨cur, hcur, htag⟩
    · intro heq
      rw [heq] at htakes
      exact hc htakes
    · rw [← htag]
      exact h cur (Table.mem_of_get? hcur)

omit [DecidableEq T] in
/-- A session that leaves the table alone takes no tag. -/
theorem Retags.of_avoids (h : ss.Avoids t) : Retags tag takes s ss :=
  ⟨fun _ hput => absurd rfl (h _ hput), fun _ _ hput => absurd rfl (h _ hput)⟩

/-- **The tags stay apart.** -/
theorem Tagged.commit (h : Tagged tag s.db) (hss : Retags tag takes s ss) :
    Tagged tag (s.view ss) := by
  -- a stored row and a committed one with its tag have the same key
  have hmixed : ∀ r x, .put t r ∈ ss.ws → x ∈ (s.db t).rows → tag r = tag x → key r = key x := by
    intro r x hput hx heq
    rcases hss.put r hput with ⟨-, hunused⟩ | ⟨cur, hcur, htag⟩
    · exact absurd heq.symm (hunused x hx)
    · rw [← Table.key_of_get? hcur, h cur (Table.mem_of_get? hcur) x hx (htag.trans heq)]
  intro r hr r' hr' heq
  have hkey : key r = key r' := by
    rcases mem_view hr with hold | hput
    · rcases mem_view hr' with hold' | hput'
      · rw [h r hold r' hold' heq]
      · exact (hmixed r' r hput' hold heq.symm).symm
    · rcases mem_view hr' with hold' | hput'
      · exact hmixed r r' hput hold' heq
      · exact hss.apart r r' hput hput' heq
  have hget := Table.get?_of_mem hr
  rw [hkey, Table.get?_of_mem hr'] at hget
  exact (Option.some.inj hget).symm

/-! ## §2. Rows that are added. -/

variable (tag takes) in
/-- The session has added rows of the table and done nothing else to it. -/
structure Adds (rows : List (Row t)) (s : State T) (ss : Session T) : Prop where
  ws : (ss.ws.filter fun w => w.table = t) = rows.map fun r => .put t r
  unique : ∀ r ∈ rows, ∀ r' ∈ rows, key r = key r' → r = r'
  apart : ∀ r ∈ rows, ∀ r' ∈ rows, tag r = tag r' → r = r'
  unused : ∀ r ∈ rows, takes (tag r) ∧ Unused tag (tag r) s.db
  new : ∀ r ∈ rows, Holds s ss t (key r) none

variable {C : Contract L T} {rows : List (Row t)}

theorem Adds.nil (h : ss.Avoids t) : Adds tag takes [] s ss where
  ws := List.filter_eq_nil_iff.mpr fun w hw => by simpa using h w hw
  unique := fun r hr => by cases hr
  apart := fun r hr => by cases hr
  unused := fun r hr => by cases hr
  new := fun r hr => by cases hr

theorem Adds.avoids (h : Adds tag takes [] s ss) : ss.Avoids t := by
  intro w hw htable
  have hmem : w ∈ ss.ws.filter fun w => w.table = t :=
    List.mem_filter.mpr ⟨hw, decide_eq_true htable⟩
  rw [h.ws] at hmem
  cases hmem

theorem Adds.mem_put (h : Adds tag takes rows s ss) {r : Row t} :
    .put t r ∈ ss.ws ↔ r ∈ rows := by
  have hfilter : (.put t r : Write T) ∈ ss.ws ↔
      .put t r ∈ (ss.ws.filter fun w => w.table = t) := by
    rw [List.mem_filter, and_iff_left]
    exact decide_eq_true rfl
  rw [hfilter, h.ws]
  constructor
  · intro hmem
    obtain ⟨r', hr', heq⟩ := List.mem_map.mp hmem
    cases heq
    exact hr'
  · exact List.mem_map_of_mem

/-- The rows of the view are those of the table and those that were added. -/
theorem Adds.mem_view (h : Adds tag takes rows s ss) {x : Row t} :
    x ∈ (s.view ss t).rows ↔ x ∈ rows ∨ x ∈ (s.db t).rows := by
  show x ∈ (s.db.apply ss.ws t).rows ↔ _
  rw [DB.apply_filter, h.ws, DB.mem_apply_puts h.unique]
  refine or_congr_right (and_iff_left_of_imp fun hx r hr hk => ?_)
  have hnone := (h.new r hr).committed
  rw [← hk, Table.get?_of_mem hx] at hnone
  cases hnone

theorem Adds.retags (h : Adds tag takes rows s ss) : Retags tag takes s ss := by
  refine ⟨fun r hput => Or.inl (h.unused r (h.mem_put.mp hput)), ?_⟩
  intro r r' hput hput' heq
  rw [h.apart r (h.mem_put.mp hput) r' (h.mem_put.mp hput') heq]

section

-- nobody else takes a tag that the session may take
variable (hevol : ∀ ids s s', C.Evol ids s s' → ∀ c, takes c → Unused tag c s.db →
  Unused tag c s'.db)

include hevol

theorem Adds.rely (h : Adds tag takes rows s ss) (hr : C.Rely ss.locks s s') :
    Adds tag takes rows s' ss where
  ws := h.ws
  unique := h.unique
  apart := h.apart
  unused := fun r hmem =>
    ⟨(h.unused r hmem).1, hevol _ _ _ hr.evol _ (h.unused r hmem).1 (h.unused r hmem).2⟩
  new := fun r hmem => (h.new r hmem).rely hr

/-- **An INSERT of a row whose tag is not seen.** -/
theorem Adds.wp_insert {new : Row t} (h : Adds tag takes rows s ss) (htakes : takes (tag new))
    (hunseen : ∀ x ∈ (s.view ss t).rows, tag x ≠ tag new)
    {Q : Except ε Bool → State T → Session T → Prop}
    (hrefused : ∀ s' ss', Q (.ok false) s' ss')
    (hq : ∀ s', C.Inv s' → Adds tag takes (rows ++ [new]) s' (ss.write (.put t new)) →
      Q (.ok true) s' (ss.write (.put t new))) :
    wp C (Prog.insert t new) Q s ss := by
  have hunused : Unused tag (tag new) s.db := fun x hx => hunseen x (h.mem_view.mpr (Or.inr hx))
  have hne : ∀ r ∈ rows, tag r ≠ tag new := fun r hr => hunseen r (h.mem_view.mpr (Or.inl hr))
  refine Relational.wp_insert (fun s' _ => hrefused _ _) fun s' he _ hfree => ?_
  have h' : Adds tag takes rows s' ss := h.rely hevol he.rely
  have hkeys : ∀ r ∈ rows, key r ≠ key new := by
    intro r hr hk
    rw [← hk, Table.get?_of_mem (h'.mem_view.mpr (Or.inl hr))] at hfree
    cases hfree
  have hcommitted : (s'.db t).get? (key new) = none :=
    Table.get?_eq_none.mpr fun x hx hk => by
      rw [← hk, Table.get?_of_mem (h'.mem_view.mpr (Or.inr hx))] at hfree
      cases hfree
  refine hq s' he.inv ⟨?_, ?_, ?_, ?_, ?_⟩
  · rw [Session.write_ws, List.filter_append, h.ws, List.map_append]
    congr 1
    exact List.filter_cons_of_pos (decide_eq_true rfl)
  · intro r hr r' hr' hk
    rcases List.mem_append.mp hr with hr | hr <;> rcases List.mem_append.mp hr' with hr' | hr'
    · exact h.unique r hr r' hr' hk
    · rw [List.mem_singleton.mp hr'] at hk
      exact absurd hk (hkeys r hr)
    · rw [List.mem_singleton.mp hr] at hk
      exact absurd hk.symm (hkeys r' hr')
    · rw [List.mem_singleton.mp hr, List.mem_singleton.mp hr']
  · intro r hr r' hr' htag
    rcases List.mem_append.mp hr with hr | hr <;> rcases List.mem_append.mp hr' with hr' | hr'
    · exact h.apart r hr r' hr' htag
    · rw [List.mem_singleton.mp hr'] at htag
      exact absurd htag (hne r hr)
    · rw [List.mem_singleton.mp hr] at htag
      exact absurd htag.symm (hne r' hr')
    · rw [List.mem_singleton.mp hr, List.mem_singleton.mp hr']
  · intro r hr
    rcases List.mem_append.mp hr with hr | hr
    · exact h'.unused r hr
    · rw [List.mem_singleton.mp hr]
      exact ⟨htakes, hevol _ _ _ he.rely.evol _ htakes hunused⟩
  · intro r hr
    rcases List.mem_append.mp hr with hr | hr
    · exact ⟨List.mem_cons_of_mem _ (h'.new r hr).locked, (h'.new r hr).committed⟩
    · rw [List.mem_singleton.mp hr]
      exact ⟨List.mem_cons_self, hcommitted⟩

end

/-! ## §3. A row that is updated. -/

variable (tag takes) in
/-- The session has stored a new version of one row, under its tag or under an unused one. -/
def Moves (s : State T) (ss : Session T) : Prop :=
  ∃ new : Row t, (ss.ws.filter fun w => w.table = t) = [.put t new] ∧
    ((takes (tag new) ∧ Unused tag (tag new) s.db) ∨
      ∃ cur, Holds s ss t (key new) (some cur) ∧ tag cur = tag new)

theorem Moves.retags (h : Moves tag takes s ss) : Retags tag takes s ss := by
  obtain ⟨new, hws, hnew⟩ := h
  have honly : ∀ r : Row t, .put t r ∈ ss.ws → r = new := by
    intro r hput
    have hmem : (.put t r : Write T) ∈ (ss.ws.filter fun w => w.table = t) :=
      List.mem_filter.mpr ⟨hput, decide_eq_true rfl⟩
    rw [hws] at hmem
    cases List.mem_singleton.mp hmem
    rfl
  refine ⟨fun r hput => ?_, fun r r' hput hput' _ => by rw [honly r hput, honly r' hput']⟩
  rw [honly r hput]
  exact hnew.imp_right fun ⟨cur, hcur, htag⟩ => ⟨cur, hcur.committed, htag⟩

theorem Moves.rely (hevol : ∀ ids s s', C.Evol ids s s' → ∀ c, takes c → Unused tag c s.db →
    Unused tag c s'.db) (h : Moves tag takes s ss) (hr : C.Rely ss.locks s s') :
    Moves tag takes s' ss := by
  obtain ⟨new, hws, ⟨htakes, hunused⟩ | ⟨cur, hcur, htag⟩⟩ := h
  · exact ⟨new, hws, Or.inl ⟨htakes, hevol _ _ _ hr.evol _ htakes hunused⟩⟩
  · exact ⟨new, hws, Or.inr ⟨cur, hcur.rely hr, htag⟩⟩

/-- **An UPDATE that leaves the tag, or changes it to one that is unused.** -/
theorem Moves.wp_update {old new : Row t} (havoids : ss.Avoids t)
    (hevol : ∀ ids s s', C.Evol ids s s' → ∀ c, takes c → Unused tag c s.db → Unused tag c s'.db)
    (htag : (∀ cur : Row t, tag (merge old new cur) = tag cur) ∨
      ((∀ cur : Row t, tag (merge old new cur) = tag new) ∧ takes (tag new) ∧
        Unused tag (tag new) s.db))
    {Q : Except ε Bool → State T → Session T → Prop} (hgone : ∀ s' ss', Q (.ok false) s' ss')
    (hq : ∀ s' cur, C.Inv s' → Moves tag takes s' (ss.write (.put t (merge old new cur))) →
      Q (.ok true) s' (ss.write (.put t (merge old new cur)))) :
    wp C (Prog.update t old new) Q s ss := by
  refine Relational.wp_update (fun s' _ => hgone _ _) fun s' cur hr hi _ hcur => ?_
  have hcommitted : (s'.db t).get? (key old) = some cur := by
    rw [← hcur, havoids.view]
  have hkey : key (merge old new cur) = key old :=
    (key_merge old new cur).trans (Table.key_of_get? hcur)
  refine hq s' cur hi ⟨merge old new cur, ?_, ?_⟩
  · rw [Session.write_ws, List.filter_append,
      List.filter_eq_nil_iff.mpr fun w hw => by simpa using havoids w hw, List.nil_append]
    have htable : Write.table (.put t (merge old new cur)) = t := rfl
    exact List.filter_cons_of_pos (decide_eq_true htable)
  · rcases htag with hsame | ⟨hnew, htakes, hunused⟩
    · exact Or.inr ⟨cur, ⟨List.mem_cons_self, by rw [hkey]; exact hcommitted⟩, (hsame cur).symm⟩
    · rw [hnew cur]
      exact Or.inl ⟨htakes, hevol _ _ _ hr.evol _ htakes hunused⟩

end PyBoard.Relational
