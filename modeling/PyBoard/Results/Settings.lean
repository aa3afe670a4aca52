/-
  PyBoard.Results.Settings — what the reads of a setting answer.

  A read that finds no copy reads the row and then stores a copy of it, in separate
  statements.  A write that commits in between leaves a new row, and the reader puts
  the old text over its copy.

  Main results:
    * `reads_answer_last_write` — while no write of a key overlaps with another call
      for the key, every read answers the value that was written last.
    * `stale_copy_survives` — after calls that overlap, it does not.
-/
import PyBoard.Specs.Settings
import PyBoard.Python.Utc

namespace PyBoard

open Relational SettingService.Cached

variable (rt : Runtime)

/-! ## §1. Runs. -/

/-- A new row draws an identifier that stands for its key. -/
def drawsKey (keyOf : Int → String) : Cond SettingCall Tbl :=
  { Cond.any with
    begin := fun
      | .set id key _ _ => keyOf id = key
      | _ => true }

/-- Two calls for the key, one of which writes. -/
def SettingCall.clash (keyOf : Int → String) (key : String) (c c' : SettingCall) : Bool :=
  c.key keyOf = some key && c'.key keyOf = some key && (c.isWrite || c'.isWrite)

/-- The calls that have ended, the newest first. -/
abbrev SettingLog := List (Ending SettingCall Tbl PyExc SettingAnswer)

/-- The row of the key after the calls that have ended. -/
def rowAfter (keyOf : Int → String) (key : String) (init : Option Setting) :
    SettingLog → Option Setting
  | [] => init
  | e :: log =>
      if e.label.key keyOf = some key && e.result.isOk then
        e.label.onRow rt (rowAfter keyOf key init log)
      else rowAfter keyOf key init log

/-- Every read of the key has answered the value that was written last. -/
def Coherent (keyOf : Int → String) (key : String) (init : Option Setting) (log : SettingLog) :
    Prop :=
  ∀ post e pre, log = post ++ e :: pre → e.label.key keyOf = some key → e.label.isWrite = false →
    e.label.read rt ((rowAfter rt keyOf key init pre).map Setting.value) = some e.result

variable {rt} {keyOf : Int → String} {key : String} {init : Option Setting} {log : SettingLog}

theorem SettingCall.clash_symm (c c' : SettingCall) :
    c.clash keyOf key c' = c'.clash keyOf key c := by
  unfold clash
  rw [Bool.and_comm (decide (c.key keyOf = some key)), Bool.or_comm]

/-- A call for the key does not overlap with a write of it. -/
theorem SettingCall.key_ne_of_not_clash {c c' : SettingCall} (h : c.clash keyOf key c' = false)
    (hkey : c'.key keyOf = some key) (hwrite : c'.isWrite = true) : c.key keyOf ≠ some key := by
  intro hc
  unfold clash at h
  rw [hc, hkey, hwrite] at h
  simp at h

/-- A call that is not a write leaves the row. -/
theorem SettingCall.onRow_of_read {c : SettingCall} (h : c.isWrite = false) (v : Option Setting) :
    c.onRow rt v = v := by
  cases c with
  | set id k value type_ => cases h
  | update_setting setting_id data => cases h
  | delete_setting setting_id => cases h
  | _ => rfl

/-- The row changes only by a write of the key that is answered. -/
theorem rowAfter_cons_same {e : Ending SettingCall Tbl PyExc SettingAnswer}
    (h : e.label.key keyOf = some key → e.label.isWrite = true → e.result.isOk = false) :
    rowAfter rt keyOf key init (e :: log) = rowAfter rt keyOf key init log := by
  unfold rowAfter
  split
  · next hok =>
    rw [Bool.and_eq_true, decide_eq_true_eq] at hok
    cases hwrite : e.label.isWrite with
    | false =>
      rw [SettingCall.onRow_of_read hwrite]
      cases log <;> rfl
    | true =>
      rw [h hok.1 hwrite] at hok
      cases hok.2
  · cases log <;> rfl

variable (rt) (init) (log) in
theorem rowAfter_cons_ok {c : SettingCall} (hkey : c.key keyOf = some key) (a : SettingAnswer)
    (s : State Tbl) (ss : Session Tbl) :
    rowAfter rt keyOf key init (⟨c, .ok a, s, ss⟩ :: log)
      = c.onRow rt (rowAfter rt keyOf key init log) := by
  unfold rowAfter
  rw [if_pos (by simp [hkey, Except.isOk, Except.toBool])]
  cases log <;> rfl

/-- One more call that has ended. -/
theorem Coherent.cons {e : Ending SettingCall Tbl PyExc SettingAnswer}
    (h : Coherent rt keyOf key init log)
    (he : e.label.key keyOf = some key → e.label.isWrite = false →
      e.label.read rt ((rowAfter rt keyOf key init log).map Setting.value) = some e.result) :
    Coherent rt keyOf key init (e :: log) := by
  intro post e' pre heq
  cases post with
  | nil =>
    cases heq
    exact he
  | cons e₀ post =>
    injection heq with _ heq
    exact h post e' pre heq

/-! ## §2. Contracts. -/

section

variable (rt) (keyOf) (key) (init)

/-- What a call relies on.  To a call for the key, its state is the view `v`; nobody else
    stores a copy for a write. -/
def settingContract (c : SettingCall) (v : Option Setting) : Contract SettingCall Tbl :=
  Contract.relying (drawsKey keyOf)
    (fun s => Ids keyOf s.db ∧ (c.key keyOf = some key → KeyState key v s.db))
    (fun s s' => c.key keyOf = some key → c.isWrite = true →
      (s.db .runtime_cache).get? (cacheKey key) = none →
      (s'.db .runtime_cache).get? (cacheKey key) = none)
    (fun _ _ _ h => h) (fun h h' hk hw hn => h' hk hw (h hk hw hn)) (fun _ h => h)
    (fun _ _ _ _ h => h)

/-- The view of a call for the key is the row that was written last. -/
def settingView (c : SettingCall) (v : Option Setting) (log : SettingLog) : Prop :=
  c.key keyOf = some key → rowAfter rt keyOf key init log = v

/-- How a call ends. -/
structure SettingPost (c : SettingCall) (v : Option Setting) (r : Except PyExc SettingAnswer)
    (s : State Tbl) (ss : Session Tbl) : Prop where
  reads : c.key keyOf = some key → c.isWrite = false →
    Only (Copies key v) s ss.ws ∧ c.read rt (v.map Setting.value) = some r
  writes : c.key keyOf = some key → c.isWrite = true → Leaves keyOf key (c.onRow rt v) r s ss
  aside : c.key keyOf ≠ some key → StaysAside keyOf key (fun _ => True) r s ss

/-- **The invariant**: the state of the key is that of the last write, and so were the answers. -/
def SettingInv (s : State Tbl) (log : SettingLog) : Prop :=
  Ids keyOf s.db ∧ KeyState key (rowAfter rt keyOf key init log) s.db ∧
    Coherent rt keyOf key init log

end

/-- **A call ends as it should**, whatever overlaps with it. -/
theorem settingContract_spec {c : SettingCall} (v : Option Setting)
    (hbegin : (drawsKey keyOf).begin c = true) {s : State Tbl}
    (hi : (settingContract keyOf key c v).Inv s) :
    wp (settingContract keyOf key c v) (c.prog rt)
      (Ends (settingContract keyOf key c v) (SettingPost rt keyOf key c v)) s Session.fresh := by
  have hdraws : ∀ id k value type_, c = .set id k value type_ → keyOf id = k := by
    rintro id k value type_ rfl
    exact of_decide_eq_true hbegin
  by_cases hkey : c.key keyOf = some key
  · have hstate : ∀ s, (settingContract keyOf key c v).Inv s →
        Ids keyOf s.db ∧ KeyState key v s.db := fun s h => ⟨h.1, h.2 hkey⟩
    cases hwrite : c.isWrite with
    | false =>
      refine wp_mono (SettingCall.read_spec hkey hwrite (fun s h => (hstate s h).2) hi) ?_
      intro r s' ss' h s'' _ _
      refine ⟨fun _ _ => h, fun _ hw => ?_, fun hne => absurd hkey hne⟩
      rw [hwrite] at hw
      cases hw
    | true =>
      have hstable : (settingContract keyOf key c v).Stable
          (Absent Tbl.runtime_cache (cacheKey key)) :=
        Absent.stable fun _ _ _ hevol => hevol hkey hwrite
      refine wp_mono (SettingCall.write_spec hkey hwrite hdraws hstate hstable) ?_
      intro r s' ss' h s'' hr hi''
      refine ⟨fun _ hw => ?_, fun _ _ => h s'' hr hi'', fun hne => absurd hkey hne⟩
      rw [hwrite] at hw
      cases hw
  · have hids : ∀ s, (settingContract keyOf key c v).Inv s → Ids keyOf s.db := fun s h => h.1
    refine wp_mono (SettingCall.aside_spec hids hkey hdraws hi) ?_
    intro r s' ss' h s'' _ _
    exact ⟨fun hk => absurd hk hkey, fun hk => absurd hk hkey, fun _ => h⟩

/-! ## §3. Coherence. -/

/-- **What one answered call does to the invariant.** -/
theorem SettingInv.commit {c : SettingCall} {a : SettingAnswer} {s : State Tbl} {ss : Session Tbl}
    (hpost : ∀ v, settingView rt keyOf key init c v log →
      SettingPost rt keyOf key c v (.ok a) s ss)
    (h : SettingInv rt keyOf key init s log) :
    SettingInv rt keyOf key init (s.commit ss) (⟨c, .ok a, s, ss⟩ :: log) := by
  obtain ⟨hids, hstate, hcoherent⟩ := h
  have hend := hpost (rowAfter rt keyOf key init log) fun _ => rfl
  have hlog : Coherent rt keyOf key init (⟨c, .ok a, s, ss⟩ :: log) :=
    hcoherent.cons fun hkey hread => (hend.reads hkey hread).2
  by_cases hkey : c.key keyOf = some key
  · have hrow := rowAfter_cons_ok rt init log hkey a s ss
    cases hwrite : c.isWrite with
    | false =>
      have hws := (hend.reads hkey hwrite).1
      rw [SettingCall.onRow_of_read hwrite] at hrow
      refine ⟨fun item hitem => hids item ?_, ?_, hlog⟩
      · rw [← Copies.setting hws s.db]
        exact hitem
      · rw [hrow]
        exact hstate.copies hws
    | true =>
      obtain ⟨hstate', hids'⟩ := hend.writes hkey hwrite a rfl
      refine ⟨hids', ?_, hlog⟩
      rw [hrow]
      exact hstate'
  · have hws := (hend.aside hkey a rfl).1
    refine ⟨hids.apply fun item hput => ((hws _ hput).put item rfl).1, ?_, hlog⟩
    rw [rowAfter_cons_same fun hk => absurd hk hkey]
    exact hstate.aside hids hws

/-- **Reads are coherent**: in every run in which no write of a key overlaps with another call
    for the key, every read of the key answers the value that was written last, or the
    default after a deletion. -/
theorem reads_answer_last_write {db : Database} {now : Int}
    {c : Config SettingCall Tbl PyExc SettingAnswer} (hids : Ids keyOf db)
    (hstate : KeyState key init db)
    (hrun : Apart (SettingCall.prog rt) (drawsKey keyOf) (SettingCall.clash keyOf key)
      (.quiet ⟨db, now⟩) log c) : Coherent rt keyOf key init log := by
  have hinv : SettingInv rt keyOf key init c.state log := by
    refine (Apart.induction (P := settingContract keyOf key) (E := SettingPost rt keyOf key)
      (K := settingView rt keyOf key init) (I := SettingInv rt keyOf key init)
      SettingCall.clash_symm (fun _ _ => rfl) ?_
      (fun c v hbegin s hi => settingContract_spec v hbegin hi) ?_ ?_ ?_ ?_ ?_ hrun rfl ?_).1
    · intro s log c v hI hK
      refine ⟨hI.1, fun hkey => ?_⟩
      rw [← hK hkey]
      exact hI.2.1
    · -- the row stays while a call for the key is live
      intro c c' v r s ss log hclash hK hkey
      rw [← hK hkey]
      refine (rowAfter_cons_same fun hk hwrite => ?_).symm
      rw [SettingCall.clash_symm] at hclash
      exact absurd hkey (SettingCall.key_ne_of_not_clash hclash hk hwrite)
    · -- nobody else stores a copy while a write of the key is live
      intro c c' v a s ss log ids hclash _ _ _ hpost hkey hwrite hnone
      have hne := SettingCall.key_ne_of_not_clash hclash hkey hwrite
      have hws := ((hpost v fun h => absurd h hne).aside hne a rfl).1
      rw [State.commit_db]
      exact DB.get?_apply_none hnone fun row hput => (hws _ hput).copy row rfl
    · exact fun s log d hI => hI
    · exact fun c a s ss log _ _ _ hpost hI => hI.commit hpost
    · intro c e s ss log _ hpost hI
      have hend := hpost (rowAfter rt keyOf key init log) fun _ => rfl
      refine ⟨hI.1, ?_, hI.2.2.cons fun hkey hread => (hend.reads hkey hread).2⟩
      rw [rowAfter_cons_same fun _ _ => rfl]
      exact hI.2.1
    · refine ⟨hids, hstate, fun post e pre heq => ?_⟩
      cases post <;> cases heq
  exact hinv.2.2

/-! ## §4. Calls that overlap. -/

def appName : Setting := { id := 1, key := "app_name", value := "old" }

/-- One row, of which there is no copy. -/
def oneSetting : Database := Database.empty.apply [.put Tbl.setting appName]

theorem oneSetting_state :
    Ids (fun _ => "app_name") oneSetting ∧ KeyState "app_name" (some appName) oneSetting := by
  have hrow : ∀ item : Setting, item ∈ (oneSetting .setting).rows → item = appName :=
    fun item hitem => List.mem_singleton.mp hitem
  refine ⟨fun item hitem => ?_, fun item hitem _ => ?_, fun item hv => ?_, fun row hrow => ?_⟩
  · rw [hrow item hitem]
    rfl
  · rw [hrow item hitem]
  · cases hv
    exact ⟨rfl, List.mem_cons_self⟩
  · cases hrow

/-- A read of the setting. -/
def readName : SettingCall := .get_str "app_name" "none"

/-- A call by itself. -/
def aloneCall (c : SettingCall) (steps : Nat) : List (Event SettingCall) :=
  .begin c :: List.replicate steps (.exec 0) ++ [.finish 0]

/-- A read, a write, a read, a deletion and a read, one after the other. -/
def callsInTurn : List (Event SettingCall) :=
  aloneCall readName 6 ++ aloneCall (.set 1 "app_name" (.str "new") "str") 5 ++
    aloneCall readName 2 ++ aloneCall (.delete_setting 1) 5 ++ aloneCall readName 4

/-- What a read has answered. -/
def answerText : Except PyExc SettingAnswer → Option String
  | .ok (.text s) => some s
  | _ => none

/-- A run of calls of which none clash. -/
abbrev NameRun (clash : SettingCall → SettingCall → Bool) :=
  Apart (SettingCall.prog Utc.bare) (drawsKey fun _ => "app_name") clash

/-- The reads answer the row, then what was written, and after the deletion the default. -/
theorem reads_answer_last_write_in_turn : ∃ log c,
    NameRun (SettingCall.clash (fun _ => "app_name") "app_name") (.quiet ⟨oneSetting, 0⟩) log c ∧
      log.map (fun e => (e.label.isWrite, answerText e.result))
        = [(false, some "none"), (true, none), (false, some "new"), (true, none),
          (false, some "old")] ∧
      Coherent Utc.bare (fun _ => "app_name") "app_name" (some appName) log := by
  obtain ⟨log, c, hrun, hanswers⟩ := Apart.exists_of_steps (SettingCall.prog Utc.bare)
    (drawsKey fun _ => "app_name") (SettingCall.clash (fun _ => "app_name") "app_name")
    (.quiet ⟨oneSetting, 0⟩) callsInTurn
    (fun log _ => log.map fun e => (e.label.isWrite, answerText e.result))
    (b := [(false, some "none"), (true, none), (false, some "new"), (true, none),
      (false, some "old")]) (by decide +kernel)
  exact ⟨log, c, hrun, hanswers, reads_answer_last_write oneSetting_state.1 oneSetting_state.2 hrun⟩

/-- A read, and a call that begins and ends after the read has read the row. -/
def straddled (c : SettingCall) (steps : Nat) : List (Event SettingCall) :=
  [.begin readName] ++ List.replicate 4 (.exec 0) ++ [.begin c] ++
    List.replicate steps (.exec 1) ++ [.finish 1] ++ List.replicate 2 (.exec 0) ++ [.finish 0]

/-- What is stored after such a run, and what a later read answers. -/
def straddledOutcome (c : SettingCall) (steps : Nat) :
    Option (Bool × Option String × List (Option String)) := do
  let start : Config SettingCall Tbl PyExc SettingAnswer := .quiet ⟨oneSetting, 0⟩
  let first ← start.stepsApart (SettingCall.prog Utc.bare) (drawsKey fun _ => "app_name")
    (fun _ _ => false) [] (straddled c steps)
  let second ← first.2.stepsApart (SettingCall.prog Utc.bare) (drawsKey fun _ => "app_name")
    (fun _ _ => false) [] (aloneCall readName 2)
  return (first.2.txs.isEmpty,
    (rowAfter Utc.bare (fun _ => "app_name") "app_name" (some appName) first.1).map Setting.value,
    second.1.map fun e => answerText e.result)

theorem straddledOutcome_run (c : SettingCall) (steps : Nat) {stored : Option String}
    {answers : List (Option String)}
    (h : straddledOutcome c steps = some (true, stored, answers)) : ∃ log c₁ later c₂,
    NameRun (fun _ _ => false) (.quiet ⟨oneSetting, 0⟩) log c₁ ∧ c₁.txs = [] ∧
      (rowAfter Utc.bare (fun _ => "app_name") "app_name" (some appName) log).map Setting.value
        = stored ∧
      NameRun (fun _ _ => false) c₁ later c₂ ∧
      later.map (fun e => answerText e.result) = answers := by
  obtain ⟨⟨log, c₁⟩, h₁, h⟩ := Option.bind_eq_some_iff.mp h
  obtain ⟨⟨later, c₂⟩, h₂, h⟩ := Option.bind_eq_some_iff.mp h
  injection h with h
  obtain ⟨hquiet, h⟩ := Prod.mk.inj h
  obtain ⟨hstored, hanswers⟩ := Prod.mk.inj h
  exact ⟨log, c₁, later, c₂, .of_steps .refl h₁, List.isEmpty_iff.mp hquiet, hstored,
    .of_steps .refl h₂, hanswers⟩

/-- **A stale copy survives**: a read that straddles a write leaves the old text in the cache.
    When all calls have ended, the text that was written is stored, or the row is deleted,
    and a read that begins then answers the old text. -/
theorem stale_copy_survives :
    (∃ log c₁ later c₂, NameRun (fun _ _ => false) (.quiet ⟨oneSetting, 0⟩) log c₁ ∧
      c₁.txs = [] ∧
      (rowAfter Utc.bare (fun _ => "app_name") "app_name" (some appName) log).map Setting.value
        = some "new" ∧
      NameRun (fun _ _ => false) c₁ later c₂ ∧
      later.map (fun e => answerText e.result) = [some "old"]) ∧
    ∃ log c₁ later c₂, NameRun (fun _ _ => false) (.quiet ⟨oneSetting, 0⟩) log c₁ ∧
      c₁.txs = [] ∧
      (rowAfter Utc.bare (fun _ => "app_name") "app_name" (some appName) log).map Setting.value
        = none ∧
      NameRun (fun _ _ => false) c₁ later c₂ ∧
      later.map (fun e => answerText e.result) = [some "old"] :=
  ⟨straddledOutcome_run (.set 1 "app_name" (.str "new") "str") 5 (by rfl),
    straddledOutcome_run (.delete_setting 1) 3 (by rfl)⟩

end PyBoard
