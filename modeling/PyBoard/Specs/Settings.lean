/-
  PyBoard.Specs.Settings — what one call does to the configuration.

  `KeyState` describes a setting and its cached copy in terms of one abstract value:
  the row that is stored, or nothing.  For each call there is one specification: a
  read of the key answers what the value says and may store a copy of it, a write of
  the key leaves the state of the new value, and a call for another key leaves the
  state as it is.
-/
import PyBoard.Relational.Apart
import PyBoard.Specs.Steady

namespace PyBoard

open Relational SettingService.Cached

variable {rt : Runtime}

/-! ## §1. Calls. -/

inductive SettingCall
  | get_str (key default : String)
  | get_int (key : String) (default : Int)
  | get_json (key : String) (default : Json)
  /-- A new row draws the identifier `id`. -/
  | set (id : Int) (key : String) (value : Json) (type_ : String)
  | update_setting (setting_id : Int) (data : SettingUpdate)
  | delete_setting (setting_id : Int)
  /-- `pyboard_cleanup_runtime_cache`, which pg_cron calls. -/
  | cleanup_runtime_cache

inductive SettingAnswer
  | text (s : String)
  | int (i : Int)
  | json (j : Json)
  | done

/-- The transaction of a call. -/
def SettingCall.prog (rt : Runtime) : SettingCall → Db SettingAnswer
  | .get_str key default => do return .text (← getStr rt key default)
  | .get_int key default => do return .int (← getInt rt key default)
  | .get_json key default => do return .json (← getJson rt key default)
  | .set id key value type_ => do
      SettingService.Cached.set rt id key value type_
      return .done
  | .update_setting setting_id data => do
      updateSetting setting_id data
      return .done
  | .delete_setting setting_id => do
      deleteSetting setting_id
      return .done
  | .cleanup_runtime_cache => do
      let _count ← RuntimeCache.cleanupExpired
      return .done

/-- The key that a call is about; `keyOf` is the key of the row with an identifier. -/
def SettingCall.key (keyOf : Int → String) : SettingCall → Option String
  | .get_str key _ => some key
  | .get_int key _ => some key
  | .get_json key _ => some key
  | .set _ key _ _ => some key
  | .update_setting setting_id _ => some (keyOf setting_id)
  | .delete_setting setting_id => some (keyOf setting_id)
  | .cleanup_runtime_cache => none

def SettingCall.isWrite : SettingCall → Bool
  | .set .. => true
  | .update_setting .. => true
  | .delete_setting .. => true
  | _ => false

/-- What a read answers when the text of the key is `v`. -/
def SettingCall.read (rt : Runtime) (v : Option String) :
    SettingCall → Option (Except PyExc SettingAnswer)
  | .get_str _ default => some (.ok (.text (v.getD default)))
  | .get_int _ default => some <|
      match v with
      | none => .ok (.int default)
      | some val =>
        match rt.int_of_str val with
        | some i => .ok (.int i)
        | none => .error (.value "invalid literal for int()")
  | .get_json _ default => some <|
      match v with
      | none => .ok (.json default)
      | some val =>
        match rt.orjson_loads val with
        | some j => .ok (.json j)
        | none => .error (.value "JSONDecodeError")
  | _ => none

/-- What a write of the key makes of its row. -/
def SettingCall.onRow (rt : Runtime) (v : Option Setting) : SettingCall → Option Setting
  | .set id key value type_ =>
      match v with
      | some item => some { item with value := strValue rt value type_, type := type_ }
      | none => some { id := id, key := key, value := strValue rt value type_, type := type_ }
  | .update_setting _ data => v.map data.apply
  | .delete_setting _ => none
  | _ => v

/-! ## §2. The state of a key. -/

/-- The rows of the configuration have the keys that `keyOf` says. -/
def Ids (keyOf : Int → String) (db : Database) : Prop :=
  ∀ item : Setting, item ∈ (db .setting).rows → keyOf item.id = item.key

/-- The row of a key is `v`, and a cached copy is a copy of it. -/
structure KeyState (key : String) (v : Option Setting) (db : Database) : Prop where
  row : ∀ item : Setting, item ∈ (db .setting).rows → item.key = key → v = some item
  stored : ∀ item : Setting, v = some item → item.key = key ∧ item ∈ (db .setting).rows
  copy : ∀ row : RuntimeCacheRow, (db .runtime_cache).get? (cacheKey key) = some row →
    ∃ item : Setting, v = some item ∧ row.value = .str item.value

variable {key : String} {v : Option Setting} {db : Database} {ws : List (Write Tbl)}
  {keyOf : Int → String}

theorem KeyState.get (h : KeyState key v db) {item : Setting} (hv : v = some item) :
    (db .setting).get? item.id = some item := Table.get?_of_mem (h.stored item hv).2

/-- The query by the key finds the row. -/
theorem KeyState.filter (h : KeyState key v db) :
    (db .setting).rows.filter (fun s : Setting => s.key = key) = v.toList := by
  cases hv : v with
  | none =>
    refine List.filter_eq_nil_iff.mpr fun item hitem hk => ?_
    have := h.row item hitem (of_decide_eq_true hk)
    rw [hv] at this
    cases this
  | some item =>
    obtain ⟨hkey, hmem⟩ := h.stored item hv
    refine Table.filter_eq_singleton _ hmem (decide_eq_true hkey) fun x hx hk => ?_
    have := h.row x hx (of_decide_eq_true hk)
    rw [hv] at this
    exact (Option.some.inj this).symm

/-- Rows that a session sees are committed or its own. -/
theorem setting_mem_apply {item : Setting} (h : item ∈ (db.apply ws .setting).rows) :
    item ∈ (db .setting).rows ∨ .put Tbl.setting item ∈ ws :=
  (DB.get?_apply_some (Table.get?_of_mem h)).imp_left Table.mem_of_get?

/-! ## §3. Writes for other keys. -/

/-- A write that has nothing to do with the key. -/
structure Aside (keyOf : Int → String) (key : String) (w : Write Tbl) : Prop where
  put : ∀ item : Setting, w = .put Tbl.setting item → keyOf item.id = item.key ∧ item.key ≠ key
  del : ∀ id : Int, w = .del Tbl.setting id → keyOf id ≠ key
  copy : ∀ row : RuntimeCacheRow, w = .put Tbl.runtime_cache row → row.key ≠ cacheKey key

theorem aside_put {item : Setting} (hid : keyOf item.id = item.key) (hkey : item.key ≠ key) :
    Aside keyOf key (.put Tbl.setting item) := by
  refine ⟨fun item' h => ?_, fun id h => (by cases h), fun row h => (by cases h)⟩
  cases h
  exact ⟨hid, hkey⟩

theorem aside_del {id : Int} (h : keyOf id ≠ key) : Aside keyOf key (.del Tbl.setting id) := by
  refine ⟨fun item h => (by cases h), fun id' heq => ?_, fun row h => (by cases h)⟩
  cases heq
  exact h

theorem aside_copy {row : RuntimeCacheRow} (h : row.key ≠ cacheKey key) :
    Aside keyOf key (.put Tbl.runtime_cache row) := by
  refine ⟨fun item h => (by cases h), fun id h => (by cases h), fun row' heq => ?_⟩
  cases heq
  exact h

theorem aside_uncopy (k : String) : Aside keyOf key (.del Tbl.runtime_cache k) :=
  ⟨fun item h => (by cases h), fun id h => (by cases h), fun row h => by cases h⟩

theorem Ids.apply (h : Ids keyOf db)
    (hws : ∀ item : Setting, .put Tbl.setting item ∈ ws → keyOf item.id = item.key) :
    Ids keyOf (db.apply ws) :=
  fun item hitem => (setting_mem_apply hitem).elim (h item) (hws item)

/-- **Frame**: the state of a key stays when other keys are written. -/
theorem KeyState.aside (hids : Ids keyOf db) (h : KeyState key v db)
    (hws : ∀ w ∈ ws, Aside keyOf key w) : KeyState key v (db.apply ws) := by
  refine ⟨fun item hitem hkey => ?_, fun item hv => ?_, fun row hrow => ?_⟩
  · rcases setting_mem_apply hitem with hold | hput
    · exact h.row item hold hkey
    · exact absurd hkey ((hws _ hput).put item rfl).2
  · obtain ⟨hkey, hmem⟩ := h.stored item hv
    refine ⟨hkey, Table.mem_of_get? (k := item.id) ?_⟩
    rw [DB.get?_apply_of_not_mem db ws]
    · exact Table.get?_of_mem hmem
    intro w hw heq
    have hid := hids item hmem
    cases w with
    | put t r =>
      obtain ⟨rfl, hr⟩ := Sigma.mk.inj heq
      have hr' : Setting.id r = item.id := eq_of_heq hr
      obtain ⟨hput, hne⟩ := (hws _ hw).put r rfl
      rw [hr', hid, hkey] at hput
      exact hne hput.symm
    | del t id =>
      obtain ⟨rfl, hid'⟩ := Sigma.mk.inj heq
      have hid' : id = item.id := eq_of_heq hid'
      have := (hws _ hw).del id rfl
      rw [hid', hid, hkey] at this
      exact this rfl
  · rcases DB.get?_apply_some hrow with hold | hput
    · exact h.copy row hold
    · exact absurd (Table.key_of_get? hrow) ((hws _ hput).copy row rfl)

/-! ## §4. Copies of the key. -/

/-- A write of a read: no row of the configuration, and only copies of the value. -/
structure Copies (key : String) (v : Option Setting) (w : Write Tbl) : Prop where
  table : w.table ≠ .setting
  copy : ∀ row : RuntimeCacheRow, w = .put Tbl.runtime_cache row → row.key = cacheKey key →
    ∃ item : Setting, v = some item ∧ row.value = .str item.value

theorem copies_del (key : String) (v : Option Setting) (k : String) :
    Copies key v (.del Tbl.runtime_cache k) :=
  ⟨show Tbl.runtime_cache ≠ Tbl.setting by decide, fun row h => by cases h⟩

theorem Copies.setting (hws : ∀ w ∈ ws, Copies key v w) (db : Database) :
    db.apply ws .setting = db .setting :=
  DB.apply_of_table_not_mem db ws fun w hw => (hws w hw).table

theorem KeyState.copies (h : KeyState key v db) (hws : ∀ w ∈ ws, Copies key v w) :
    KeyState key v (db.apply ws) := by
  refine ⟨?_, ?_, fun row hrow => ?_⟩
  · rw [Copies.setting hws]
    exact h.row
  · rw [Copies.setting hws]
    exact h.stored
  · rcases DB.get?_apply_some hrow with hold | hput
    · exact h.copy row hold
    · exact (hws _ hput).copy row rfl (Table.key_of_get? hrow)

/-! ## §5. Writes of the key. -/

/-- What a write of the key leaves: the new row and a copy of it. -/
theorem KeyState.written (hids : Ids keyOf db) (h : KeyState key v db) {new : Setting}
    {row : RuntimeCacheRow} (hnew : new.key = key) (hid : keyOf new.id = key)
    (hold : ∀ item, v = some item → item.id = new.id) (hrow : row.key = cacheKey key)
    (hval : row.value = .str new.value)
    (hws : ws = [.put Tbl.setting new, .put Tbl.runtime_cache row] ∨
      v = some new ∧ ws = [.put Tbl.runtime_cache row]) :
    KeyState key (some new) (db.apply ws) ∧ Ids keyOf (db.apply ws) := by
  have hcopy : (db.apply ws .runtime_cache).get? (cacheKey key) = some row := by
    have hput : ∀ db : Database, (db.apply [.put Tbl.runtime_cache row] .runtime_cache).get?
        (cacheKey key) = some row := fun db => by
      rw [← hrow]
      show (db.put Tbl.runtime_cache row .runtime_cache).get? (Schema.key row) = some row
      rw [DB.put_same, Table.get?_put_self]
    rcases hws with rfl | ⟨-, rfl⟩
    · exact hput _
    · exact hput _
  have hne : ∀ w ∈ [Write.put Tbl.runtime_cache row], w.table ≠ .setting := by
    intro w hw
    rw [List.mem_singleton.mp hw]
    exact (show Tbl.runtime_cache ≠ Tbl.setting by decide)
  have hget : ∀ item : Setting, v = some item → (db .setting).get? new.id = some item :=
    fun item hv => hold item hv ▸ h.get hv
  have hsetting : db.apply ws .setting = (db .setting).put new := by
    rcases hws with rfl | ⟨hv, rfl⟩
    · show (db.put Tbl.setting new).apply [.put Tbl.runtime_cache row] .setting = _
      rw [DB.apply_of_table_not_mem _ _ hne, DB.put_same]
    · rw [DB.apply_of_table_not_mem _ _ hne, Table.put_eq_self (hget new hv)]
  refine ⟨⟨fun item hitem hkey => ?_, fun item hv => ?_, fun row' hrow' => ?_⟩,
    fun item hitem => ?_⟩
  · rw [hsetting] at hitem
    rcases Table.mem_put.mp hitem with rfl | ⟨hmem, hne'⟩
    · rfl
    · exact absurd (hold item (h.row item hmem hkey)) hne'
  · cases hv
    rw [hsetting]
    exact ⟨hnew, Table.mem_put.mpr (Or.inl rfl)⟩
  · rw [hcopy] at hrow'
    cases hrow'
    exact ⟨new, rfl, hval⟩
  · rw [hsetting] at hitem
    rcases Table.mem_put.mp hitem with rfl | ⟨hmem, -⟩
    · rw [hid, hnew]
    · exact hids item hmem

/-- A write of a deletion: the row of the key, or a copy of any key. -/
def Removes (id : Int) (w : Write Tbl) : Prop :=
  w = .del Tbl.setting id ∨ ∃ k, w = .del Tbl.runtime_cache k

/-- What a deletion leaves: no row, and no copy. -/
theorem KeyState.deleted {s : State Tbl} (hids : Ids keyOf s.db) (h : KeyState key v s.db)
    {id : Int}
    (hid : ∀ item : Setting, v = some item → item.id = id) (hws : ∀ w ∈ ws, Removes id w)
    (hdel : .del Tbl.setting id ∈ ws)
    (habs : Absent Tbl.runtime_cache (cacheKey key) s ws) :
    KeyState key none (s.db.apply ws) ∧ Ids keyOf (s.db.apply ws) := by
  have hput : ∀ w ∈ ws, ∀ item : Setting, w ≠ .put Tbl.setting item := by
    rintro w hw item rfl
    rcases hws _ hw with heq | ⟨k, heq⟩ <;> cases heq
  have hgone : Absent Tbl.setting id s ws :=
    Absent.of_del hdel fun w hw item heq => absurd heq (hput w hw item)
  refine ⟨⟨fun item hitem hkey => ?_, fun item hv => (by cases hv), fun row hrow => ?_⟩, ?_⟩
  · rcases setting_mem_apply hitem with hold | hnew
    · have hv := h.row item hold hkey
      have hget : ((s.db.apply ws) .setting).get? item.id = some item := Table.get?_of_mem hitem
      unfold Absent at hgone
      rw [hid item hv, hgone] at hget
      cases hget
    · exact absurd rfl (hput _ hnew item)
  · unfold Absent at habs
    rw [habs] at hrow
    cases hrow
  · exact hids.apply fun item hitem => absurd rfl (hput _ hitem item)

/-! ## §6. What a read answers. -/

section

variable {L : Type} {C : Contract L Tbl}

/-- The text that a read of the key finds is that of the value. -/
theorem wp_getCached_state (hstate : ∀ s, C.Inv s → KeyState key v s.db) {s : State Tbl}
    {ss : Session Tbl} (hi : C.Inv s) (hj : Only (Copies key v) s ss.ws) :
    wp C (getCached rt key) (fun r s' ss' => Only (Copies key v) s' ss'.ws ∧
      r = .ok (v.map Setting.value)) s ss := by
  have hseen : ∀ (s : State Tbl) (ss : Session Tbl), C.Inv s → Only (Copies key v) s ss.ws →
      KeyState key v (s.view ss) := fun s ss hi hj => (hstate s hi).copies hj
  refine wp_getCached ?_ ?_ ?_ (copies_del key v _) hi hj
  · intro s ss row val hi hj hrow hval
    obtain ⟨item, hv, htext⟩ := (hseen s ss hi hj).copy row hrow
    rw [htext] at hval
    cases hval
    rw [hv]
    rfl
  · intro s ss hi hj
    refine (wp_bind _ _ _ _ _).mpr (wp_select fun s' he => ?_)
    have hrows := (hseen s' ss he.inv hj).filter
    show wp C (scalarOneOrNone ((s'.view ss .setting).rows.filter _)) _ s' ss
    rw [hrows]
    cases hv : v with
    | none => exact rfl
    | some item => exact rfl
  · intro row text hkey hval hA
    refine ⟨(show Tbl.runtime_cache ≠ Tbl.setting by decide), fun row' heq _ => ?_⟩
    cases heq
    cases hv : v with
    | none =>
      rw [hv] at hA
      cases hA
    | some item =>
      rw [hv] at hA
      cases hA
      exact ⟨item, rfl, hval⟩

/-- **A read of the key answers what the value says**, and stores only copies of it. -/
theorem SettingCall.read_spec {c : SettingCall} (hkey : c.key keyOf = some key)
    (hread : c.isWrite = false) (hstate : ∀ s, C.Inv s → KeyState key v s.db) {s : State Tbl}
    (hi : C.Inv s) :
    wp C (c.prog rt) (fun r s' ss' => Only (Copies key v) s' ss'.ws ∧
      c.read rt (v.map Setting.value) = some r) s Session.fresh := by
  have htext : ∀ key', some key' = some key → wp C (getCached rt key') (fun r s' ss' =>
      Only (Copies key v) s' ss'.ws ∧ r = .ok (v.map Setting.value)) s Session.fresh := by
    intro key' h
    cases h
    exact wp_getCached_state hstate hi (Only.nil _ s)
  cases c with
  | get_str key' default =>
    refine (wp_bind _ _ _ _ _).mpr ((wp_bind _ _ _ _ _).mpr (wp_mono (htext key' hkey) ?_))
    rintro _ s' ss' ⟨hj, rfl⟩
    exact ⟨hj, rfl⟩
  | get_int key' default =>
    refine (wp_bind _ _ _ _ _).mpr ((wp_bind _ _ _ _ _).mpr (wp_mono (htext key' hkey) ?_))
    rintro _ s' ss' ⟨hj, rfl⟩
    unfold SettingCall.read
    cases v.map Setting.value with
    | none => exact ⟨hj, rfl⟩
    | some val =>
      dsimp only
      cases rt.int_of_str val with
      | none => exact ⟨hj, rfl⟩
      | some i => exact ⟨hj, rfl⟩
  | get_json key' default =>
    refine (wp_bind _ _ _ _ _).mpr ((wp_bind _ _ _ _ _).mpr (wp_mono (htext key' hkey) ?_))
    rintro _ s' ss' ⟨hj, rfl⟩
    unfold SettingCall.read
    cases v.map Setting.value with
    | none => exact ⟨hj, rfl⟩
    | some val =>
      dsimp only
      cases rt.orjson_loads val with
      | none => exact ⟨hj, rfl⟩
      | some j => exact ⟨hj, rfl⟩
  | set id key' value type_ => cases hread
  | update_setting setting_id data => cases hread
  | delete_setting setting_id => cases hread
  | cleanup_runtime_cache => cases hkey

/-! ## §7. What a write leaves. -/

/-- `_cache_set` stores one copy. -/
theorem wp_cacheSet {text : String} {Q : Except PyExc Unit → State Tbl → Session Tbl → Prop}
    {s : State Tbl} {ss : Session Tbl}
    (h : ∀ s' ss' row, Extends C s ss s' ss' [.put Tbl.runtime_cache row] →
      row.key = cacheKey key → row.value = .str text → Q (.ok ()) s' ss') :
    wp C (cacheSet key text) Q s ss := by
  refine (wp_bind _ _ _ _ _).mpr ((wp_bind _ _ _ _ _).mpr (wp_clock fun s₁ he₁ => ?_))
  refine (wp_bind _ _ _ _ _).mpr (wp_upsert ?_ (fun s₂ he₂ _ => ?_) ?_)
  · exact fun cur => rfl
  · exact h s₂ _ _ (he₁.trans he₂) rfl rfl
  · intro s₂ cur he₂ hcur
    exact h s₂ _ _ (he₁.trans he₂) (show cur.key = cacheKey key from Table.key_of_get? hcur) rfl

/-- A row that nobody else changes is updated, or left as it is if nothing changes. -/
theorem wp_updateItem {old new : Setting} (hid : old.id = new.id)
    (hold : ∀ s, C.Inv s → (s.db .setting).get? old.id = some old)
    {Q : Except PyExc Setting → State Tbl → Session Tbl → Prop}
    {s : State Tbl} {ss : Session Tbl} (hws : ss.ws = [])
    (herr : ∀ name s' ss', Q (.error (.other name)) s' ss')
    (h : ∀ s' ss' ws, C.Inv s' → ss'.ws = ws → (ws = [.put Tbl.setting new] ∨ old = new ∧ ws = []) →
      Q (.ok new) s' ss') :
    wp C (updateItem old new) Q s ss := by
  have hview : ∀ s : State Tbl, s.view ss = s.db := fun s => by rw [State.view, hws, DB.apply_nil]
  refine (wp_bind _ _ _ _ _).mpr (wp_ite (fun hne => ?_) fun heq => ?_)
  · refine wp_save (fun name s' ss' => herr name s' ss') fun s₁ cur hr₁ hi₁ _ hcur => ?_
    have hcur' : some cur = some old := by
      rw [← hold s₁ hi₁, ← hcur, hview]
      rfl
    cases hcur'
    have hmerge : Tbl.setting.merge old new old = new :=
      @Schema.merge_self Tbl _ Tbl.setting old new hid
    rw [hmerge]
    refine (wp_bind _ _ _ _ _).mpr (wp_get fun s₂ he₂ => ?_)
    have hget : (s₂.view (ss.write (.put Tbl.setting new)) .setting).get? old.id = some new := by
      rw [State.view_write, DB.write, DB.put_same, hid]
      exact Table.get?_put_self _ new
    dsimp only
    rw [hget]
    exact h s₂ _ _ he₂.inv (by rw [Session.write_ws, hws]; rfl) (Or.inl rfl)
  · rw [not_not] at heq
    refine (wp_bind _ _ _ _ _).mpr (wp_get fun s₂ he₂ => ?_)
    dsimp only
    rw [hview, hold s₂ he₂.inv, heq]
    exact h s₂ ss [] he₂.inv hws (Or.inr ⟨heq, rfl⟩)

/-- What a write of the key has to leave when it is answered: the row `new`. -/
def Leaves (keyOf : Int → String) (key : String) (new : Option Setting)
    (r : Except PyExc SettingAnswer) (s : State Tbl) (ss : Session Tbl) : Prop :=
  ∀ a, r = .ok a → KeyState key new (s.db.apply ss.ws) ∧ Ids keyOf (s.db.apply ss.ws)

theorem ends_error (new : Option Setting) (e : PyExc) (s : State Tbl) (ss : Session Tbl) :
    Ends C (Leaves keyOf key new) (.error e) s ss := fun _ _ _ _ h => by cases h

section

variable (hstate : ∀ s, C.Inv s → Ids keyOf s.db ∧ KeyState key v s.db)

include hstate

/-- A row of the key that is found is the value. -/
theorem found_eq {s : State Tbl} (hi : C.Inv s) {setting_id : Int} {item : Setting}
    (hid : keyOf setting_id = key) (hget : (s.db .setting).get? setting_id = some item) :
    v = some item ∧ item.id = setting_id ∧ item.key = key := by
  have hitem : item.id = setting_id := Table.key_of_get? hget
  have hmem := Table.mem_of_get? hget
  have hkey : item.key = key := by rw [← (hstate s hi).1 item hmem, hitem, hid]
  exact ⟨(hstate s hi).2.row item hmem hkey, hitem, hkey⟩

/-- After the row is changed, its text is copied. -/
theorem wp_cacheSet_written (new : Setting) {ws : List (Write Tbl)} (hnew : new.key = key)
    (hid : keyOf new.id = key) (hold : ∀ item, v = some item → item.id = new.id)
    (hcases : ws = [.put Tbl.setting new] ∨ v = some new ∧ ws = []) {s : State Tbl}
    {ss : Session Tbl} (hws : ss.ws = ws) :
    wp C ((cacheSet key new.value).bind fun _ => .ret SettingAnswer.done)
      (Ends C (Leaves keyOf key (some new))) s ss := by
  refine (wp_bind _ _ _ _ _).mpr (wp_cacheSet fun s₁ ss₁ row he hrow hval => ?_)
  intro s₂ hr₂ hi₂ _ _
  obtain ⟨hids, hkeystate⟩ := hstate s₂ hi₂
  refine hkeystate.written hids hnew hid hold hrow hval ?_
  rw [he.ws_eq, hws]
  rcases hcases with rfl | ⟨hv, rfl⟩
  · exact Or.inl rfl
  · exact Or.inr ⟨hv, rfl⟩

/-- The row of the key is changed, and its text is copied. -/
theorem wp_updateItem_written (item new : Setting) (hv : v = some item) (hid : new.id = item.id)
    (hnew : new.key = item.key) {f : Setting → Db Unit} (hf : f new = cacheSet key new.value)
    {s : State Tbl} (hi : C.Inv s) :
    wp C (((updateItem item new).bind f).bind fun _ => .ret SettingAnswer.done)
      (Ends C (Leaves keyOf key (some new))) s Session.fresh := by
  obtain ⟨hkey, hmem⟩ := (hstate s hi).2.stored item hv
  refine (wp_bind _ _ _ _ _).mpr ((wp_bind _ _ _ _ _).mpr (wp_updateItem hid.symm
    (fun s hi => (hstate s hi).2.get hv) rfl (fun name s' ss' => ends_error _ _ s' ss') ?_))
  intro s₂ ss₂ ws hi₂ hws hcases
  show wp C (f new) _ s₂ ss₂
  rw [hf]
  refine (wp_bind _ _ _ _ _).mp (wp_cacheSet_written hstate new (hnew.trans hkey) ?_
    (fun item' h => ?_) (hcases.imp_right fun h => ⟨hv.trans (congrArg some h.1), h.2⟩) hws)
  · rw [hid, (hstate s hi).1 item hmem, hkey]
  · rw [hv] at h
    cases h
    exact hid.symm

/-- **`set`** changes the row of the key, or adds it. -/
theorem wp_set_written {id : Int} (hid : keyOf id = key) (value : Json) (type_ : String)
    {s : State Tbl} :
    wp C ((SettingCall.set id key value type_).prog rt)
      (Ends C (Leaves keyOf key ((SettingCall.set id key value type_).onRow rt v)))
      s Session.fresh := by
  unfold SettingCall.prog SettingService.Cached.set
  refine (wp_bind _ _ _ _ _).mpr ((wp_bind _ _ _ _ _).mpr ((wp_bind _ _ _ _ _).mpr ?_))
  refine wp_select fun s₁ he₁ => ?_
  have hrows := (hstate s₁ he₁.inv).2.filter
  show wp C (scalarOneOrNone ((s₁.db .setting).rows.filter _)) _ s₁ _
  rw [hrows]
  cases hv : v with
  | none =>
    refine (wp_bind _ _ _ _ _).mpr (wp_create (fun name s' ss' => ends_error _ _ s' ss') ?_)
    intro s₂ he₂ _
    refine (wp_bind _ _ _ _ _).mp (wp_cacheSet_written hstate
      { id := id, key := key, value := strValue rt value type_, type := type_ }
      rfl hid (fun item h => ?_) (Or.inl rfl) rfl)
    rw [hv] at h
    cases h
  | some item =>
    let new : Setting := { item with value := strValue rt value type_, type := type_ }
    show wp C ((updateItem item new).bind fun _ => cacheSet key new.value) _ s₁ _
    exact (wp_bind _ _ _ _ _).mp (wp_updateItem_written hstate item new hv rfl rfl (by rfl) he₁.inv)

/-- **`update_setting`** changes the row of the key. -/
theorem wp_updateSetting_written {setting_id : Int} (hid : keyOf setting_id = key)
    (data : SettingUpdate) {s : State Tbl} :
    wp C ((SettingCall.update_setting setting_id data).prog rt)
      (Ends C (Leaves keyOf key ((SettingCall.update_setting setting_id data).onRow rt v)))
      s Session.fresh := by
  refine (wp_bind _ _ _ _ _).mpr ((wp_bind _ _ _ _ _).mpr (wp_get fun s₁ he₁ => ?_))
  dsimp only
  cases hget : (s₁.view Session.fresh .setting).get? setting_id with
  | none => exact ends_error _ _ s₁ _
  | some item =>
    obtain ⟨hv, -, hkey⟩ := found_eq hstate he₁.inv hid hget
    have hnew : (SettingCall.update_setting setting_id data).onRow rt v =
        some (data.apply item) := by
      rw [hv]
      rfl
    rw [hnew]
    show wp C ((updateItem item (data.apply item)).bind fun item' =>
      cacheSet (Setting.key item') (Setting.value item')) _ s₁ _
    refine (wp_bind _ _ _ _ _).mp (wp_updateItem_written hstate item (data.apply item) hv rfl rfl ?_
      he₁.inv)
    show cacheSet (Setting.key item) _ = cacheSet key _
    rw [hkey]

/-- **`delete_setting`** removes the row of the key and its copy. -/
theorem wp_deleteSetting_written {setting_id : Int} (hid : keyOf setting_id = key)
    (habs : C.Stable (Absent Tbl.runtime_cache (cacheKey key))) {s : State Tbl} :
    wp C ((SettingCall.delete_setting setting_id).prog rt) (Ends C (Leaves keyOf key none))
      s Session.fresh := by
  refine (wp_bind _ _ _ _ _).mpr ((wp_bind _ _ _ _ _).mpr (wp_get fun s₁ he₁ => ?_))
  dsimp only
  cases hget : (s₁.view Session.fresh .setting).get? setting_id with
  | none => exact ends_error _ _ s₁ _
  | some item =>
    obtain ⟨hv, hitem, hkey⟩ := found_eq hstate he₁.inv hid hget
    refine (wp_bind _ _ _ _ _).mpr fun s₂ hr₂ hi₂ _ => ?_
    have hfound : (s₂.view Session.fresh .setting).get? setting_id = some item := by
      rw [← hitem]
      exact (hstate s₂ hi₂).2.get hv
    rw [Stmt.exec_delete, hfound]
    have hstable : C.Stable fun (_ : State Tbl) ws =>
        (∀ w ∈ ws, Removes setting_id w) ∧ .del Tbl.setting setting_id ∈ ws :=
      fun _ _ _ _ _ hj => hj
    have hsteady : C.Steady (fun (_ : State Tbl) ws =>
        (∀ w ∈ ws, Removes setting_id w) ∧ .del Tbl.setting setting_id ∈ ws)
        (RuntimeCache.delete [cacheKey (Setting.key item)]) := by
      refine steady_delete hstable fun s ws _ hj => ⟨fun w hw => ?_, List.mem_append_left _ hj.2⟩
      rcases List.mem_append.mp hw with hw | hw
      · exact hj.1 w hw
      · exact Or.inr ⟨_, List.mem_singleton.mp hw⟩
    have hstart : (∀ w ∈ (Session.fresh.write (.del Tbl.setting setting_id) : Session Tbl).ws,
        Removes setting_id w) ∧ .del Tbl.setting setting_id ∈
          (Session.fresh.write (.del Tbl.setting setting_id) : Session Tbl).ws :=
      ⟨fun w hw => Or.inl (List.mem_singleton.mp hw), List.mem_singleton_self _⟩
    have habs' : C.Stable (Absent Tbl.runtime_cache (cacheKey (Setting.key item))) := by
      rw [hkey]
      exact habs
    refine (wp_bind _ _ _ _ _).mpr (wp_mono (wp_and (hsteady s₂ _ hi₂ hstart)
      (wp_delete_absent habs')) ?_)
    rintro (e | count) s₃ ss₃ ⟨⟨hws, hdel⟩, hgone⟩
    · exact ends_error _ _ s₃ _
    · intro s₄ hr₄ hi₄ a _
      rw [hkey] at hgone
      refine (hstate s₄ hi₄).2.deleted (hstate s₄ hi₄).1 (fun item' h => ?_) hws hdel
        (habs s₃ s₄ ss₃ hr₄ hi₄ hgone)
      rw [hv] at h
      cases h
      exact hitem

end

/-- **A write of the key leaves the state of the new value**, however long its COMMIT takes. -/
theorem SettingCall.write_spec {c : SettingCall} (hkey : c.key keyOf = some key)
    (hwrite : c.isWrite = true)
    (hbegin : ∀ id key value type_, c = .set id key value type_ → keyOf id = key)
    (hstate : ∀ s, C.Inv s → Ids keyOf s.db ∧ KeyState key v s.db)
    (habs : C.Stable (Absent Tbl.runtime_cache (cacheKey key))) {s : State Tbl} :
    wp C (c.prog rt) (Ends C (Leaves keyOf key (c.onRow rt v))) s Session.fresh := by
  cases c with
  | set id key' value type_ =>
    cases hkey
    exact wp_set_written hstate (hbegin id key value type_ rfl) value type_
  | update_setting setting_id data =>
    injection hkey with hid
    exact wp_updateSetting_written hstate hid data
  | delete_setting setting_id =>
    injection hkey with hid
    exact wp_deleteSetting_written hstate hid habs
  | _ => cases hwrite

/-! ## §8. Calls for other keys. -/

theorem aside_cacheOpen {k : String} (h : k ≠ key) :
    CacheOpen C (Only (Aside keyOf key)) (cacheKey k) :=
  ⟨fun _ hrow _ _ _ hj => hj.append (aside_copy fun heq => h (cacheKey_injective
    (hrow.symm.trans heq))), fun _ _ _ hj => hj.append (aside_uncopy _)⟩

/-- A call for another key that is answered has only such writes. -/
def StaysAside {α : Type} (keyOf : Int → String) (key : String) (P : α → Prop) (r : Except PyExc α)
    (s : State Tbl) (ss : Session Tbl) : Prop :=
  ∀ a, r = .ok a → Only (Aside keyOf key) s ss.ws ∧ P a

theorem wp_steady_aside {α : Type} {p : Db α} (hp : C.Steady (Only (Aside keyOf key)) p)
    {s : State Tbl} {ss : Session Tbl} (hi : C.Inv s) (hj : Only (Aside keyOf key) s ss.ws) :
    wp C p (StaysAside keyOf key fun _ => True) s ss :=
  wp_mono (hp s ss hi hj) fun _ _ _ hj _ _ => ⟨hj, trivial⟩

theorem wp_cacheSet_aside {k text : String} (hne : k ≠ key) {s : State Tbl} {ss : Session Tbl}
    (hi : C.Inv s) (hj : Only (Aside keyOf key) s ss.ws) :
    wp C (cacheSet k text) (StaysAside keyOf key fun _ => True) s ss :=
  wp_steady_aside (steady_cacheSet (Only.stable C _) (aside_cacheOpen hne) text) hi hj

/-- **`delete_setting`** of another key. -/
theorem wp_deleteSetting_aside {setting_id : Int} (hne : keyOf setting_id ≠ key) {s : State Tbl} :
    wp C (deleteSetting setting_id) (StaysAside keyOf key fun _ => True) s Session.fresh := by
  have hstable : C.Stable (Only (Aside keyOf key)) := Only.stable C _
  refine (wp_bind _ _ _ _ _).mpr (wp_get fun s₁ he₁ => ?_)
  dsimp only
  cases (s₁.view Session.fresh .setting).get? setting_id with
  | none => exact fun _ h => by cases h
  | some item =>
    refine wp_steady_aside (.bind (.delete hstable fun s ws _ hj => hj.append (aside_del hne)) ?_)
      he₁.inv (Only.nil _ s₁)
    intro _
    exact .bind (steady_delete hstable fun s ws _ hj => hj.append (aside_uncopy _)) fun _ => .ret _

section

variable (hids : ∀ s, C.Inv s → Ids keyOf s.db)

include hids

/-- The session of a call for another key sees rows with the keys that `keyOf` says. -/
theorem Ids.view {s : State Tbl} {ss : Session Tbl} (hi : C.Inv s)
    (hj : Only (Aside keyOf key) s ss.ws) : Ids keyOf (s.view ss) :=
  (hids s hi).apply fun item hput => ((hj _ hput).put item rfl).1

/-- A row that is looked up by its identifier has its key. -/
theorem Ids.found {s : State Tbl} {ss : Session Tbl} (hi : C.Inv s)
    (hj : Only (Aside keyOf key) s ss.ws) {id : Int} {item : Setting}
    (h : (s.view ss .setting).get? id = some item) : item.id = id ∧ item.key = keyOf id := by
  have hid : item.id = id := Table.key_of_get? h
  refine ⟨hid, ?_⟩
  rw [← hid]
  exact (Ids.view hids hi hj item (Table.mem_of_get? h)).symm

/-- Another row is changed. -/
theorem wp_updateItem_aside {old new : Setting} (hkey : old.key = new.key)
    (hne : keyOf old.id ≠ key) {s : State Tbl} {ss : Session Tbl}
    (hj : Only (Aside keyOf key) s ss.ws) :
    wp C (updateItem old new) (StaysAside keyOf key fun item => item.key ≠ key) s ss := by
  -- the row that was stored is read again
  have hget : ∀ (k : Option Setting → Db Setting) (e : PyExc), k none = Prog.throw e →
      (∀ item, k (some item) = .ret item) → ∀ (s : State Tbl) (ss : Session Tbl),
        Only (Aside keyOf key) s ss.ws →
          wp C ((Prog.get Tbl.setting old.id).bind k)
            (StaysAside keyOf key fun item => item.key ≠ key) s ss := by
    intro k e hnone hsome s ss hj
    refine (wp_bind _ _ _ _ _).mpr (wp_get fun s' he => ?_)
    dsimp only
    cases hrow : (s'.view ss .setting).get? old.id with
    | none =>
      rw [hnone]
      exact fun item h => by cases h
    | some item =>
      rw [hsome]
      intro item' h
      cases h
      refine ⟨hj, ?_⟩
      show item.key ≠ key
      rw [(Ids.found hids he.inv hj hrow).2]
      exact hne
  refine (wp_bind _ _ _ _ _).mpr (wp_ite (fun _ => ?_) fun _ => hget _ _ rfl (fun _ => rfl) s ss hj)
  refine wp_save (fun name s' ss' item h => by cases h) fun s₁ cur hr₁ hi₁ _ hcur => ?_
  obtain ⟨hid, hcurkey⟩ := Ids.found hids hi₁ hj hcur
  have hmerged : (Setting.merge old new cur).key = keyOf old.id := by
    show column old.key new.key cur.key = keyOf old.id
    rw [hkey, column_same, hcurkey]
    rfl
  refine hget _ _ rfl (fun _ => rfl) s₁ _ (hj.append (aside_put ?_ ?_))
  · show keyOf cur.id = (Setting.merge old new cur).key
    rw [hmerged, hid]
    rfl
  · show (Setting.merge old new cur).key ≠ key
    rw [hmerged]
    exact hne

/-- **`set`** of another key. -/
theorem wp_set_aside {id : Int} {k : String} (hid : keyOf id = k) (hne : k ≠ key) (value : Json)
    (type_ : String) {s : State Tbl} :
    wp C (SettingService.Cached.set rt id k value type_) (StaysAside keyOf key fun _ => True) s
      Session.fresh := by
  have hset : ∀ (s : State Tbl) (ss : Session Tbl), C.Inv s → Only (Aside keyOf key) s ss.ws →
      wp C (cacheSet k (strValue rt value type_)) (StaysAside keyOf key fun _ => True) s ss :=
    fun s ss hi hj => wp_cacheSet_aside hne hi hj
  refine (wp_bind _ _ _ _ _).mpr (wp_selectOne (fun s₁ he _ => ?_)
    (fun s₁ item he hrow hk => ?_) ?_)
  · refine (wp_bind _ _ _ _ _).mpr
      (wp_create (fun name s' ss' _ h => by cases h) fun s₂ he₂ _ => ?_)
    exact hset s₂ _ he₂.inv ((Only.nil _ s₂).append (aside_put hid hne))
  · have hkey : item.key = k := of_decide_eq_true hk
    have hnil : Only (Aside keyOf key) s₁ (Session.fresh : Session Tbl).ws := Only.nil _ s₁
    have hne' : keyOf item.id ≠ key := fun h => hne (by
      rw [← hkey, (Ids.found hids he.inv hnil hrow).2]
      exact h)
    refine (wp_bind _ _ _ _ _).mpr (wp_mono (wp_inv he.inv (wp_updateItem_aside hids (by rfl) hne'
      hnil)) ?_)
    rintro (e | item') s₂ ss₂ ⟨hi₂, hpost⟩
    · exact fun _ h => by cases h
    · exact hset s₂ ss₂ hi₂ (hpost item' rfl).1
  · exact fun s₁ _ _ h => by cases h

/-- **`update_setting`** of another key. -/
theorem wp_updateSetting_aside {setting_id : Int} (hne : keyOf setting_id ≠ key)
    (data : SettingUpdate) {s : State Tbl} :
    wp C (updateSetting setting_id data) (StaysAside keyOf key fun _ => True) s Session.fresh := by
  refine (wp_bind _ _ _ _ _).mpr (wp_get fun s₁ he₁ => ?_)
  dsimp only
  cases hget : (s₁.view Session.fresh .setting).get? setting_id with
  | none => exact fun _ h => by cases h
  | some item =>
    have hnil : Only (Aside keyOf key) s₁ (Session.fresh : Session Tbl).ws := Only.nil _ s₁
    have hne' : keyOf item.id ≠ key := by
      rw [(Ids.found hids he₁.inv hnil hget).1]
      exact hne
    refine (wp_bind _ _ _ _ _).mpr (wp_mono (wp_inv he₁.inv (wp_updateItem_aside hids (by rfl) hne'
      hnil)) ?_)
    rintro (e | item') s₂ ss₂ ⟨hi₂, hpost⟩
    · exact fun _ h => by cases h
    · exact wp_cacheSet_aside (hpost item' rfl).2 hi₂ (hpost item' rfl).1

/-- **A call for another key writes nothing for the key.** -/
theorem SettingCall.aside_spec {c : SettingCall} (hkey : c.key keyOf ≠ some key)
    (hbegin : ∀ id k value type_, c = .set id k value type_ → keyOf id = k) {s : State Tbl}
    (hi : C.Inv s) :
    wp C (c.prog rt) (StaysAside keyOf key fun _ => True) s Session.fresh := by
  have hstable : C.Stable (Only (Aside keyOf key)) := Only.stable C _
  have hnil : Only (Aside keyOf key) s (Session.fresh : Session Tbl).ws := Only.nil _ s
  have hopen : ∀ k, some k ≠ some key → CacheOpen C (Only (Aside keyOf key)) (cacheKey k) :=
    fun k h => aside_cacheOpen fun heq => h (congrArg some heq)
  have hdone : ∀ {p : Db Unit}, wp C p (StaysAside keyOf key fun _ => True) s Session.fresh →
      wp C (p.bind fun _ => .ret SettingAnswer.done) (StaysAside keyOf key fun _ => True) s
        Session.fresh := by
    intro p hp
    refine (wp_bind _ _ _ _ _).mpr (wp_mono hp ?_)
    rintro (e | u) s' ss' h
    · exact fun _ h => by cases h
    · exact fun _ _ => ⟨(h u rfl).1, trivial⟩
  cases c with
  | get_str k default =>
    exact wp_steady_aside (.bind (steady_getStr rt hstable (hopen k hkey) _) fun _ =>
      .ret _) hi hnil
  | get_int k default =>
    exact wp_steady_aside (.bind (steady_getInt rt hstable (hopen k hkey) _) fun _ =>
      .ret _) hi hnil
  | get_json k default =>
    refine wp_steady_aside (.bind (.bind (steady_getCached rt hstable (hopen k hkey)) fun val => ?_)
      fun _ => .ret _) hi hnil
    cases val with
    | none => exact .ret _
    | some val =>
      dsimp only
      cases rt.orjson_loads val with
      | none => exact .throw _
      | some j => exact .ret _
  | cleanup_runtime_cache =>
    refine wp_steady_aside (.bind (.bind (steady_time hstable) fun now => ?_) fun _ =>
      .ret _) hi hnil
    exact .bind (.deleteReturning hstable fun _ _ _ _ _ hj => hj.append (aside_uncopy _)) fun _ =>
      .ret _
  | set id k value type_ =>
    refine hdone (wp_set_aside hids (hbegin id k value type_ rfl) ?_ value type_)
    exact fun heq => hkey (congrArg some heq)
  | update_setting setting_id data =>
    exact hdone (wp_updateSetting_aside hids (fun heq => hkey (congrArg some heq)) data)
  | delete_setting setting_id =>
    exact hdone (wp_deleteSetting_aside fun heq => hkey (congrArg some heq))

end

end

end PyBoard
