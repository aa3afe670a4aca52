/-
  PyBoard.Specs.Reads — what a read of the configuration answers at one instant.

  A service reads the rows, or it goes through the runtime cache (`SettingSource`).  In both
  ways the answer is made of one text, `SettingSource.text`, and the read leaves at most
  writes of the cache.
-/
import PyBoard.Specs.Alone

namespace PyBoard

open Relational

variable {rt : Runtime} {s : State Tbl} {ss ss' : Session Tbl} {key : String}

/-- `int(val) if val is not None else default`. -/
def intOfText (rt : Runtime) (default : Int) : Option String → Except PyExc Int
  | none => .ok default
  | some val =>
      match rt.int_of_str val with
      | some i => .ok i
      | none => .error (.value "invalid literal for int()")

/-- `orjson.loads(val) if val is not None else default`. -/
def jsonOfText (rt : Runtime) (default : Json) : Option String → Except PyExc Json
  | none => .ok default
  | some val =>
      match rt.orjson_loads val with
      | some v => .ok v
      | none => .error (.value "JSONDecodeError")

theorem storedSetting_quiet {settings : List Setting} {e : PyExc}
    (h : storedSetting settings key = .error e) : e.isApp = false := by
  unfold storedSetting at h
  split at h
  · cases h
  · cases h
  · cases h
    rfl

theorem intOfText_quiet {default : Int} {val : Option String} {e : PyExc}
    (h : intOfText rt default val = .error e) : e.isApp = false := by
  unfold intOfText at h
  split at h
  · cases h
  split at h
  · cases h
  · cases h
    rfl

/-- The row of a setting, read without a cache. -/
theorem run_getCached (key : String) : (SettingService.getCached key).run s ss
    = (storedSetting (s.view ss .setting).rows key, ss) := by
  unfold SettingService.getCached SettingRepository.getByKey storedSetting
  rw [Prog.bind_eq, Prog.bind_eq, Prog.bind_assoc, Prog.run_select_bind]
  cases (s.view ss .setting).rows.filter fun item : Setting => item.key = key with
  | nil => rfl
  | cons item rest =>
      cases rest with
      | nil => rfl
      | cons _ _ => rfl

namespace SettingSource

variable (settings : SettingSource)

/-- The text of a setting: its row, or behind the cache its live copy if it has one. -/
def text (rt : Runtime) (s : State Tbl) (ss : Session Tbl) (key : String) :
    Except PyExc (Option String) :=
  match settings with
  | .stored => storedSetting (s.db .setting).rows key
  | .cached => settingText rt s ss key

def int (rt : Runtime) (s : State Tbl) (ss : Session Tbl) (key : String) (default : Int) :
    Except PyExc Int := do
  intOfText rt default (← settings.text rt s ss key)

def json (rt : Runtime) (s : State Tbl) (ss : Session Tbl) (key : String) (default : Json) :
    Except PyExc Json := do
  jsonOfText rt default (← settings.text rt s ss key)

variable {settings}

theorem text_congr (h : SameDocument s ss ss' (SettingService.Cached.cacheKey key)) :
    settings.text rt s ss' key = settings.text rt s ss key := by
  cases settings with
  | stored => rfl
  | cached =>
      unfold text settingText
      dsimp only
      rw [h]

theorem int_congr (h : SameDocument s ss ss' (SettingService.Cached.cacheKey key))
    (default : Int) : settings.int rt s ss' key default = settings.int rt s ss key default := by
  unfold int
  rw [text_congr h]

theorem text_quiet {e : PyExc} (h : settings.text rt s ss key = .error e) : e.isApp = false := by
  cases settings with
  | stored => exact storedSetting_quiet h
  | cached =>
      unfold text settingText at h
      dsimp only at h
      split at h
      · cases h
      · exact storedSetting_quiet h

theorem int_quiet {default : Int} {e : PyExc} (h : settings.int rt s ss key default = .error e) :
    e.isApp = false := by
  unfold int at h
  cases htext : settings.text rt s ss key with
  | error e' =>
      rw [htext] at h
      cases h
      exact text_quiet htext
  | ok val =>
      rw [htext] at h
      exact intOfText_quiet h

variable (settings) (rt)

/-- The text that is read, and what the read leaves. -/
theorem run_getCached_text (hrows : s.view ss .setting = s.db .setting) (key : String) :
    ∃ ss', (match settings with
        | .stored => SettingService.getCached key
        | .cached => SettingService.Cached.getCached rt key).run s ss
      = (settings.text rt s ss key, ss') ∧ CacheSince ss ss' ∧
        ∀ k, k ≠ SettingService.Cached.cacheKey key → SameDocument s ss ss' k := by
  cases settings with
  | stored =>
      refine ⟨ss, ?_, .refl ss, fun _ _ => rfl⟩
      dsimp only
      rw [run_getCached, hrows]
      rfl
  | cached => exact run_getCached_since rt hrows key

theorem run_getInt (hrows : s.view ss .setting = s.db .setting) (key : String) (default : Int) :
    ∃ ss', (settings.getInt rt key default).run s ss = (settings.int rt s ss key default, ss') ∧
      CacheSince ss ss' ∧
      ∀ k, k ≠ SettingService.Cached.cacheKey key → SameDocument s ss ss' k := by
  obtain ⟨ss', hrun, hsince, hsame⟩ := run_getCached_text rt settings hrows key
  refine ⟨ss', ?_, hsince, hsame⟩
  have hget : (settings.getInt rt key default).run s ss = ((match settings with
      | .stored => SettingService.getCached key
      | .cached => SettingService.Cached.getCached rt key).bind fun val =>
        liftExcept (intOfText rt default val)).run s ss := by
    cases settings <;>
    · refine congrArg (fun f => (Prog.bind _ f).run s ss) (funext fun val => ?_)
      cases val with
      | none => rfl
      | some val =>
          unfold intOfText
          dsimp only
          cases rt.int_of_str val <;> rfl
  rw [hget, Prog.run_bind, hrun]
  unfold int
  cases settings.text rt s ss key with
  | error e => rfl
  | ok val => exact run_liftExcept _

theorem run_getJson (hrows : s.view ss .setting = s.db .setting) (key : String)
    (default : Json) :
    ∃ ss', (settings.getJson rt key default).run s ss = (settings.json rt s ss key default, ss') ∧
      CacheSince ss ss' ∧
      ∀ k, k ≠ SettingService.Cached.cacheKey key → SameDocument s ss ss' k := by
  obtain ⟨ss', hrun, hsince, hsame⟩ := run_getCached_text rt settings hrows key
  refine ⟨ss', ?_, hsince, hsame⟩
  have hget : (settings.getJson rt key default).run s ss = ((match settings with
      | .stored => SettingService.getCached key
      | .cached => SettingService.Cached.getCached rt key).bind fun val =>
        liftExcept (jsonOfText rt default val)).run s ss := by
    cases settings <;>
    · refine congrArg (fun f => (Prog.bind _ f).run s ss) (funext fun val => ?_)
      cases val with
      | none => rfl
      | some val =>
          unfold jsonOfText
          dsimp only
          cases rt.orjson_loads val <;> rfl
  rw [hget, Prog.run_bind, hrun]
  unfold json
  cases settings.text rt s ss key with
  | error e => rfl
  | ok val => exact run_liftExcept _

end SettingSource

end PyBoard
