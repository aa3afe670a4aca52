/-
  PyBoard.Results.Invites — invite codes that are used once.

  A registration reads the invite code without a lock and marks it as used later.  In runs
  in which registrations with one code do not overlap a code is used once, unless the
  settings keep it in use (`invite_code_used_once`).  Two registrations that overlap may both
  be attributed through it (`overlapping_registrations_share_code`).
-/
import PyBoard.Python.Utc
import PyBoard.Relational.Apart
import PyBoard.Specs.Auth

namespace PyBoard

open Relational AuthService

variable {rt : Runtime} {fm : Formats}

/-! ## §1. Registrations. -/

/-- A register request. -/
structure Registration where
  http : TurnstileService.Siteverify
  drawn : Drawn
  data : UserCreate
  client_ip : Option String

namespace Registration

variable (rt fm)

def prog (l : Registration) : Db String := register rt fm l.http l.drawn l.data l.client_ip

/-- The code that the request carries. -/
def code (l : Registration) : Option String := carriedCode rt l.data.invite_code

/-- Do two requests carry one code? -/
def clash (l l' : Registration) : Bool := (l.code rt).isSome && l.code rt = l'.code rt

end Registration

abbrev RegistrationLog := List (Ending Registration Tbl PyExc String)

/-- The accounts that have been attributed through the code: a request that carries a code
    either fails or creates an account of the inviter of the code. -/
def attributed (rt : Runtime) (code : String) (log : RegistrationLog) : Nat :=
  log.countP fun e => e.result.isOk && e.label.code rt = some code

/-! ## §2. The rows of a code. -/

/-- Both databases have the same rows with the code. -/
def SameRows (code : String) (db db' : Database) : Prop :=
  ∀ r : InviteCode, r.code = code → (r ∈ (db .invite_code).rows ↔ r ∈ (db' .invite_code).rows)

/-- The one active row with the code. -/
structure ActiveRow (code : String) (old : InviteCode) (db : Database) : Prop where
  stored : old ∈ (db .invite_code).rows
  code_eq : old.code = code
  active : old.status = 0
  only : ∀ r : InviteCode, r ∈ (db .invite_code).rows → r.code = code → r.status = 0 → r = old

theorem ActiveRow.same {code : String} {old : InviteCode} {db db' : Database}
    (h : ActiveRow code old db) (hsame : SameRows code db db') : ActiveRow code old db' where
  stored := (hsame old h.code_eq).mp h.stored
  code_eq := h.code_eq
  active := h.active
  only r hr hcode := h.only r ((hsame r hcode).mpr hr) hcode

/-- The session has used the code, if there is one, and done nothing else to invite codes. -/
structure Attributes (rt : Runtime) (code : Option String) (s : State Tbl)
    (ws : List (Write Tbl)) : Prop where
  reads : ∀ w ∈ ws, KeepsReading rt neverExpireSetting 0 w
  none : code = Option.none → ∀ w ∈ ws, w.table ≠ .invite_code
  some : ∀ c, code = Option.some c → ∃ old used : InviteCode, ActiveRow c old s.db ∧
    used.id = old.id ∧ used.code = c ∧ used.status ≠ 0 ∧
      (ws.filter fun w => w.table = .invite_code) = [.put Tbl.invite_code used]

variable {s : State Tbl} {ss : Session Tbl} {code : Option String}

/-- One more write of another kind. -/
theorem Attributes.append {ws : List (Write Tbl)} {w : Write Tbl} (h : Attributes rt code s ws)
    (hw : KeepsReading rt neverExpireSetting 0 w) (htable : w.table ≠ .invite_code) :
    Attributes rt code s (ws ++ [w]) := by
  refine ⟨fun w' hw' => ?_, fun hnone w' hw' => ?_, fun c hc => ?_⟩
  · rcases List.mem_append.mp hw' with hw' | hw'
    · exact h.reads w' hw'
    · rw [List.mem_singleton.mp hw']
      exact hw
  · rcases List.mem_append.mp hw' with hw' | hw'
    · exact h.none hnone w' hw'
    · rw [List.mem_singleton.mp hw']
      exact htable
  · obtain ⟨old, used, hold, hid, hcode, hstatus, hws⟩ := h.some c hc
    refine ⟨old, used, hold, hid, hcode, hstatus, ?_⟩
    rw [List.filter_append, hws, List.filter_cons_of_neg (by simpa using htable)]
    rfl

/-- **After the commit no row of the code is active.** -/
theorem Attributes.used {c : String} (h : Attributes rt (Option.some c) s ss.ws) (r : InviteCode)
    (hr : r ∈ (s.view ss .invite_code).rows) (hcode : r.code = c) : r.status ≠ 0 := by
  obtain ⟨old, used, hold, hid, -, hstatus, hws⟩ := h.some c rfl
  have hview : s.view ss .invite_code = (s.db .invite_code).put used := by
    show s.db.apply ss.ws .invite_code = _
    rw [DB.apply_filter, hws]
    exact DB.put_same s.db _ _
  rw [hview] at hr
  rcases Table.mem_put.mp hr with rfl | ⟨hmem, hkey⟩
  · exact hstatus
  · intro hactive
    rw [hold.only r hmem hcode hactive] at hkey
    exact hkey hid.symm

/-- The rows of other codes stay. -/
theorem Attributes.others (h : Attributes rt code s ss.ws) {c : String}
    (hne : code ≠ Option.some c) :
    SameRows c s.db (s.view ss) := by
  intro r hcode
  cases code with
  | none =>
    have hview : s.view ss .invite_code = s.db .invite_code :=
      DB.apply_of_table_not_mem s.db ss.ws (h.none rfl)
    rw [hview]
  | some c' =>
    obtain ⟨old, used, hold, hid, hused, -, hws⟩ := h.some c' rfl
    have hview : s.view ss .invite_code = (s.db .invite_code).put used := by
      show s.db.apply ss.ws .invite_code = _
      rw [DB.apply_filter, hws]
      exact DB.put_same s.db _ _
    rw [hview, Table.mem_put]
    have hcodes : c' ≠ c := fun heq => hne (congrArg Option.some heq)
    constructor
    · intro hmem
      refine Or.inr ⟨hmem, fun hkey => hcodes ?_⟩
      -- the row with the key of the used one carries its code
      have hget := Table.get?_of_mem hmem
      have hkeys : Schema.key (t := Tbl.invite_code) r = Schema.key old := hkey.trans hid
      rw [hkeys, Table.get?_of_mem hold.stored] at hget
      rw [← hcode, ← hold.code_eq, Option.some.inj hget]
    · rintro (rfl | ⟨hmem, -⟩)
      · exact absurd (hused.symm.trans hcode) hcodes
      · exact hmem

/-! ## §3. One registration. -/

/-- What a registration writes before it uses a code. -/
def Screening (rt : Runtime) (w : Write Tbl) : Prop :=
  KeepsReading rt neverExpireSetting 0 w ∧ w.table ≠ .invite_code

theorem screening_put {row : RuntimeCacheRow}
    (h : row.key ≠ SettingService.Cached.cacheKey neverExpireSetting) :
    Screening rt (.put Tbl.runtime_cache row) := by
  refine ⟨⟨show Tbl.runtime_cache ≠ .setting by decide, fun row' heq hkey => ?_⟩,
    show Tbl.runtime_cache ≠ .invite_code by decide⟩
  cases heq
  exact absurd hkey h

theorem screening_del (key : String) : Screening rt (.del Tbl.runtime_cache key) :=
  ⟨⟨show Tbl.runtime_cache ≠ .setting by decide, fun row heq => by cases heq⟩,
    show Tbl.runtime_cache ≠ .invite_code by decide⟩

section

variable {L : Type} {C : Contract L Tbl}

theorem screening_open {key : String}
    (h : key ≠ SettingService.Cached.cacheKey neverExpireSetting) :
    CacheOpen C (Only (Screening rt)) key where
  put _ hrow _ _ _ hj := hj.append (screening_put (hrow ▸ h))
  del _ _ _ hj := hj.append (screening_del key)

theorem screening_settings : SettingsOpen C (Only (Screening rt)) :=
  ⟨Only.stable _ _, fun _ hkey => screening_open fun heq => hkey (cacheKey_injective heq)⟩

/-- A query that expects at most one row, and the row that it finds. -/
theorem wp_selectOnly {s : State Tbl} {ss : Session Tbl} {t : Tbl} {p : t.Row → Bool}
    {Q : Except PyExc (Option t.Row) → State Tbl → Session Tbl → Prop}
    (hnone : ∀ s', Q (.ok none) s' ss)
    (hsome : ∀ s' r, Extends C s ss s' ss [] → r ∈ (s'.view ss t).rows → p r = true →
      (∀ x ∈ (s'.view ss t).rows, p x = true → x = r) → Q (.ok (some r)) s' ss)
    (herr : ∀ e s', Q (.error e) s' ss) :
    wp C ((Prog.select t p : Db _).bind scalarOneOrNone) Q s ss := by
  refine (wp_bind _ _ _ _ _).mpr (wp_select fun s' he => wp_scalarOneOrNone
    (fun _ => hnone s') (fun r hl => ?_) (herr _ s'))
  have hmem : ∀ x, x ∈ (s'.view ss t).rows.filter p ↔ x = r := by
    rw [hl]
    exact fun x => List.mem_singleton
  obtain ⟨hr, hpr⟩ := List.mem_filter.mp ((hmem r).mpr rfl)
  exact hsome s' r he hr hpr fun x hx hpx => (hmem x).mp (List.mem_filter.mpr ⟨hx, hpx⟩)

variable (hevol : ∀ ids s s', C.Evol ids s s' → ∀ c, code = Option.some c → SameRows c s.db s'.db)

include hevol

theorem attributes_stable : C.Stable (Attributes rt code) := by
  intro s s' ss hr _ h
  refine ⟨h.reads, h.none, fun c hc => ?_⟩
  obtain ⟨old, used, hold, hrest⟩ := h.some c hc
  exact ⟨old, used, hold.same (hevol _ _ _ hr.evol c hc), hrest⟩

theorem activeRow_stable {c : String} (hc : code = Option.some c) (old : InviteCode) :
    C.Stable fun s _ => ActiveRow c old s.db :=
  fun _ _ _ hr _ h => h.same (hevol _ _ _ hr.evol c hc)

/-- The row is marked as used. -/
theorem wp_useInvite {c : String} (hc : code = Option.some c) {old used : InviteCode}
    (hactive : ActiveRow c old s.db) (hj : Only (Screening rt) s ss.ws) (hid : used.id = old.id)
    (hcode : used.code = c) (hstatus : used.status ≠ 0) (hne : old ≠ used) :
    wp C (updateRow .invite_code old used)
      (fun r s' ss' => ∀ a, r = .ok a → Attributes rt code s' ss'.ws) s ss := by
  have hrefresh : C.Steady (Attributes rt code) (refresh .invite_code old) := by
    refine .bind (.get (attributes_stable hevol) _ _) fun obj => ?_
    cases obj with
    | none => exact .throw _
    | some obj => exact .ret _
  unfold updateRow whenever
  refine (wp_bind _ _ _ _ _).mpr (wp_ite (fun _ => ?_) fun heq => absurd hne heq)
  refine (wp_bind _ _ _ _ _).mpr
    (wp_update (fun _ _ a h => by cases h) fun s' cur hr hi' _ hcur => ?_)
  have hactive' : ActiveRow c old s'.db := activeRow_stable hevol hc old _ _ ss hr hi' hactive
  -- the row is still the one that was read
  have hview : s'.view ss .invite_code = s'.db .invite_code :=
    DB.apply_of_table_not_mem s'.db ss.ws fun w hw => (hj w hw).2
  rw [hview, Table.get?_of_mem hactive'.stored] at hcur
  cases hcur
  have hmerge : Schema.merge (t := Tbl.invite_code) old used old = used :=
    Schema.merge_self (t := Tbl.invite_code) old used hid.symm
  rw [hmerge]
  show wp C (refresh .invite_code old)
    (fun r s' ss' => ∀ a, r = .ok a → Attributes rt code s' ss'.ws) s' _
  refine wp_mono (hrefresh s' _ hi' ?_) fun r s'' ss'' h a _ => h
  refine ⟨fun w hw => ?_, fun hnone => ?_, fun c' hc' => ?_⟩
  · rw [Session.write_ws] at hw
    rcases List.mem_append.mp hw with hw | hw
    · exact (hj w hw).1
    · rw [List.mem_singleton.mp hw]
      exact ⟨show Tbl.invite_code ≠ .setting by decide, fun row heq => by cases heq⟩
  · rw [hc] at hnone
    cases hnone
  · cases Option.some.inj (hc.symm.trans hc')
    refine ⟨old, used, hactive', hid, hcode, hstatus, ?_⟩
    rw [Session.write_ws, List.filter_append,
      List.filter_eq_nil_iff.mpr fun w hw => by simpa using (hj w hw).2, List.nil_append]
    have htable : Write.table (.put Tbl.invite_code used) = Tbl.invite_code := rfl
    exact List.filter_cons_of_pos (decide_eq_true htable)

variable (hreads : ∀ s, C.Inv s → ReadsAs rt neverExpireSetting 0 0 s.db)

include hreads

/-- **The code is used**, by a request that found it active. -/
theorem wp_resolveInviteUserId {invite_code : Option String}
    (hcode : carriedCode rt invite_code = code)
    (hi : C.Inv s) (hj : Only (Screening rt) s ss.ws) :
    wp C (resolveInviteUserId rt invite_code)
      (fun r s' ss' => C.Inv s' ∧ ∀ a, r = .ok a → Attributes rt code s' ss'.ws) s ss := by
  have hforce : C.Steady (Only (Screening rt))
      (SettingService.Cached.getInt rt "invite_force" 0) :=
    steady_getInt rt (Only.stable _ _) (screening_settings.setting _ (by decide)) 0
  refine wp_inv hi ?_
  refine hforce.wp_bind hi hj (fun force s₁ ss₁ hi₁ hj₁ => ?_) fun e _ _ _ a h => by cases h
  rw [hcode]
  cases hc : code with
  | none =>
    refine wp_ite (fun _ a h => by cases h) fun _ a _ => ?_
    exact ⟨fun w hw => (hj₁ w hw).1, fun _ w hw => (hj₁ w hw).2, fun c h => by cases h⟩
  | some c =>
    refine (wp_bind _ _ _ _ _).mpr (wp_selectOnly (fun _ a h => by cases h)
      (fun s₂ old he hmem hp honly => ?_) fun e _ a h => by cases h)
    have hview : ∀ (s : State Tbl) (ss : Session Tbl), Only (Screening rt) s ss.ws →
        s.view ss .invite_code = s.db .invite_code :=
      fun s ss hj => DB.apply_of_table_not_mem s.db ss.ws fun w hw => (hj w hw).2
    rw [hview s₂ ss₁ hj₁] at hmem honly
    rw [Bool.and_eq_true, decide_eq_true_eq, decide_eq_true_eq] at hp
    have hactive : ActiveRow c old s₂.db := by
      refine ⟨hmem, hp.1, hp.2, fun r hr hrc hrs => honly r hr ?_⟩
      rw [Bool.and_eq_true, decide_eq_true_eq, decide_eq_true_eq]
      exact ⟨hrc, hrs⟩
    -- the row stays while the setting is read
    have hnever := wp_getInt_readsAs hreads (fun w (hw : Screening rt w) => hw.1)
      (fun row hkey hcopy => ⟨⟨show Tbl.runtime_cache ≠ .setting by decide, fun row' heq _ => by
        cases heq
        exact hcopy⟩, show Tbl.runtime_cache ≠ .invite_code by decide⟩) (screening_del _) he.inv hj₁
    have hopen : CacheOpen C (fun s _ => ActiveRow c old s.db)
        (SettingService.Cached.cacheKey neverExpireSetting) :=
      ⟨fun _ _ _ _ _ h => h, fun _ _ _ h => h⟩
    have hstays := steady_getInt rt (activeRow_stable hevol hc old) hopen 0 s₂ ss₁ he.inv hactive
    refine (wp_bind _ _ _ _ _).mpr (wp_mono (wp_inv he.inv (wp_and hstays hnever)) ?_)
    rintro (e | never) s₃ ss₃ ⟨hi₃, hactive₃, hj₃, hzero⟩
    · exact fun a h => by cases h
    · cases hzero never rfl
      refine (wp_bind _ _ _ _ _).mpr (wp_mono (wp_useInvite hevol hc hactive₃ hj₃ rfl
        hactive₃.code_eq (show (1 : Int) ≠ 0 by decide) fun heq => ?_) ?_)
      · -- the count of its visits changes
        have hpv : old.pv = old.pv + 1 := congrArg InviteCode.pv heq
        omega
      · rintro (e | invite) s₄ ss₄ hused
        · exact fun a h => by cases h
        · exact fun a _ => hc ▸ hused invite rfl

end

/-! ## §4. Runs. -/

namespace Registration

variable (rt) (fm)

/-- What a registration relies on: nobody else touches the rows with its code. -/
def contract (l : Registration) : Contract Registration Tbl :=
  Contract.relying Cond.any (fun s => ReadsAs rt neverExpireSetting 0 0 s.db)
    (fun s s' => ∀ c, l.code rt = some c → SameRows c s.db s'.db)
    (fun _ _ _ _ _ => Iff.rfl)
    (fun h h' c hc r hr => (h c hc r hr).trans (h' c hc r hr)) (fun _ h => h)
    (fun _ _ _ _ _ _ => Iff.rfl)

/-- **A registration that returns** has used its code. -/
theorem spec (l : Registration) {s : State Tbl} (hi : (l.contract rt).Inv s) :
    wp (l.contract rt) (l.prog rt fm) (Ends (l.contract rt) fun r s' ss' =>
      ∀ a, r = .ok a → Attributes rt (l.code rt) s' ss'.ws) s Session.fresh := by
  have hevol : ∀ ids s s', (l.contract rt).Evol ids s s' → ∀ c, l.code rt = some c →
      SameRows c s.db s'.db := fun _ _ _ h => h
  have hstable : (l.contract rt).Stable (Attributes rt (l.code rt)) := attributes_stable hevol
  have hcodeKey : emailVerifyCodeKey l.data.email
      ≠ SettingService.Cached.cacheKey neverExpireSetting :=
    append_ne_append 1 (by decide) (by decide) (by decide) _ _
  have hlimit : ∀ ip, registerLimitKey ip ≠ SettingService.Cached.cacheKey neverExpireSetting :=
    fun ip => append_ne_append 1 (by decide) (by decide) (by decide) _ _
  unfold prog
  rw [register_eq]
  have hsettings : SettingsOpen (l.contract rt) (Only (Screening rt)) := screening_settings
  have hscreen : (l.contract rt).Steady (Only (Screening rt))
      (screen rt l.http l.data l.client_ip) :=
    steady_screen hsettings (fun ip => screening_open (hlimit ip)) l.http
      (screening_open hcodeKey).del l.client_ip
  refine hscreen.wp_bind hi (Only.nil _ _) (fun taken s₁ ss₁ hi₁ hj₁ => ?_)
    fun e _ _ _ _ _ _ a h => by cases h
  refine wp_ite (fun _ _ _ _ a h => by cases h) fun _ => ?_
  refine (wp_bind _ _ _ _ _).mpr (wp_mono
    (wp_resolveInviteUserId hevol (fun s hi => hi) rfl hi₁ hj₁) ?_)
  rintro (e | invite_user_id) s₂ ss₂ ⟨hi₂, hused⟩
  · exact fun _ _ _ a h => by cases h
  · have hcode : CacheDel (l.contract rt) (Attributes rt (l.code rt))
        (emailVerifyCodeKey l.data.email) := by
      intro s ws _ hj
      have hdel : Screening rt (.del Tbl.runtime_cache (emailVerifyCodeKey l.data.email)) :=
        screening_del _
      exact hj.append hdel.1 hdel.2
    have hstore := steady_storeUser hstable fm l.drawn l.data hcode
      (fun user _ s ws _ hj => hj.append
        ⟨show Tbl.users ≠ .setting by decide, fun row heq => by cases heq⟩
        (show Tbl.users ≠ .invite_code by decide)) invite_user_id
    exact wp_mono (hstore s₂ ss₂ hi₂ (hused _ rfl)) fun r s₃ ss₃ h s₄ hr hi₄ _ _ =>
      hstable s₃ s₄ ss₃ hr hi₄ h

end Registration

/-- Each code has been used at most once, and a used code has no active row. -/
structure UsedUp (rt : Runtime) (log : RegistrationLog) (s : State Tbl) : Prop where
  reads : ReadsAs rt neverExpireSetting 0 0 s.db
  once : ∀ c, attributed rt c log ≤ 1
  spent : ∀ c, 0 < attributed rt c log → ∀ r : InviteCode, r ∈ (s.db .invite_code).rows →
    r.code = c → r.status ≠ 0

variable {log : RegistrationLog}

/-- A registration that raised, or that carries another code, is not counted. -/
theorem attributed_cons_same {e : Ending Registration Tbl PyExc String} {c : String}
    (h : e.result.isOk = true → e.label.code rt ≠ some c) :
    attributed rt c (e :: log) = attributed rt c log := by
  refine List.countP_cons_of_neg fun hcounts => ?_
  rw [Bool.and_eq_true, decide_eq_true_eq] at hcounts
  exact h hcounts.1 hcounts.2

/-- **One registration commits.** -/
theorem UsedUp.commit {l : Registration} {token : String} (h : UsedUp rt log s)
    (hused : Attributes rt (l.code rt) s ss.ws) :
    UsedUp rt (⟨l, .ok token, s, ss⟩ :: log) (s.commit ss) := by
  have hcase : ∀ c, (l.code rt = some c ∧ attributed rt c (⟨l, .ok token, s, ss⟩ :: log) = 1) ∨
      (l.code rt ≠ some c ∧
        attributed rt c (⟨l, .ok token, s, ss⟩ :: log) = attributed rt c log) := by
    intro c
    by_cases hc : l.code rt = some c
    · -- the code had an active row, so it was not used before
      obtain ⟨old, -, hold, -⟩ := hused.some c hc
      have hunused : attributed rt c log = 0 := by
        by_contra hne
        exact h.spent c (Nat.pos_of_ne_zero hne) old hold.stored hold.code_eq hold.active
      have hcounts : ((Except.ok token : Except PyExc String).isOk
          && decide (l.code rt = some c)) = true :=
        Bool.and_eq_true_iff.mpr ⟨rfl, decide_eq_true hc⟩
      have hnext : attributed rt c (⟨l, .ok token, s, ss⟩ :: log) = attributed rt c log + 1 :=
        List.countP_cons_of_pos hcounts
      exact Or.inl ⟨hc, by rw [hnext, hunused]⟩
    · exact Or.inr ⟨hc, attributed_cons_same fun _ => hc⟩
  refine ⟨h.reads.apply hused.reads, fun c => ?_, fun c hpos r hr hcode => ?_⟩
  · rcases hcase c with ⟨-, hone⟩ | ⟨-, hsame⟩
    · rw [hone]
    · rw [hsame]
      exact h.once c
  · rcases hcase c with ⟨hc, -⟩ | ⟨hc, hsame⟩
    · exact (hc ▸ hused : Attributes rt (some c) s ss.ws).used r hr hcode
    · rw [hsame] at hpos
      exact h.spent c hpos r ((hused.others hc r hcode).mpr hr) hcode

theorem Registration.clash_symm (l l' : Registration) : l.clash rt l' = l'.clash rt l := by
  unfold clash
  by_cases hcode : l.code rt = l'.code rt
  · rw [hcode]
  · rw [decide_eq_false hcode, decide_eq_false (Ne.symm hcode), Bool.and_false, Bool.and_false]

/-- **An invite code is used once** in every run in which requests with one code do not
    overlap, while codes do expire. -/
theorem invite_code_used_once {db : Database} {now : Int} {log : RegistrationLog}
    {c : Config Registration Tbl PyExc String} (hoff : ReadsAs rt neverExpireSetting 0 0 db)
    (hrun : Apart (Registration.prog rt fm) Cond.any (Registration.clash rt) (.quiet ⟨db, now⟩)
      log c) (code : String) : attributed rt code log ≤ 1 := by
  refine ((Apart.induction (V := Unit) (P := fun l _ => l.contract rt)
    (E := fun l _ r s ss => ∀ a, r = .ok a → Attributes rt (l.code rt) s ss.ws)
    (K := fun _ _ _ => True) (I := fun s log => UsedUp rt log s)
    Registration.clash_symm (fun _ _ => rfl) (fun _ _ _ _ h _ => h.reads)
    (fun l _ _ s hi => l.spec rt fm hi) (fun _ _ _ _ _ _ _ _ _ => trivial) ?_
    (fun _ _ _ h => ⟨h.reads, h.once, h.spent⟩) ?_ ?_ hrun rfl ?_).1).once code
  · -- a commit leaves the rows of the codes of the others
    intro l l' _ a s ss log ids hclash _ _ _ hused c hc
    refine (hused () trivial a rfl).others fun heq => ?_
    unfold Registration.clash at hclash
    rw [heq, hc, decide_eq_true rfl] at hclash
    cases hclash
  · intro l a s ss log _ _ _ hused h
    exact h.commit (hused () trivial a rfl)
  · intro l e s ss log _ _ h
    have hsame : ∀ c, attributed rt c (⟨l, .error e, s, ss⟩ :: log) = attributed rt c log :=
      fun c => attributed_cons_same fun hok => by cases hok
    refine ⟨h.reads, fun c => ?_, fun c hpos => ?_⟩
    · rw [hsame]
      exact h.once c
    · rw [hsame] at hpos
      exact h.spent c hpos
  · exact ⟨hoff, fun c => Nat.zero_le 1, fun c hpos => absurd hpos (Nat.lt_irrefl 0)⟩

/-- A user who invites, and the code to do it with. -/
def oneInvite : Database
  | .users => ⟨[{ id := 1, email := "a@example.com", password := "", token := "a", uuid := "" }],
      by decide⟩
  | .invite_code => ⟨[{ id := 1, user_id := 1, code := "X", status := 0 }], by decide⟩
  | _ => Table.empty

/-- A registration with the code. -/
def invited (id : Int) (email : String) : Registration where
  http := fun _ _ _ => none
  drawn := ⟨id, fun password => password, email, email⟩
  data := { email := email, password := "password", invite_code := some "X" }
  client_ip := none

theorem oneInvite_off : ReadsAs Utc.bare neverExpireSetting 0 0 oneInvite :=
  ⟨fun _ => rfl, (fun item hitem => by cases hitem), fun row hrow => by cases hrow⟩

/-- Two registrations with the code, one after the other. -/
def invitingTwice : List (Event Registration) :=
  .begin (invited 2 "b@example.com") :: List.replicate 36 (.exec 0) ++ [.finish 0] ++
    .begin (invited 3 "c@example.com") :: List.replicate 26 (.exec 0) ++ [.finish 0]

/-- The second of two registrations with the code is refused. -/
theorem invite_code_used_once_twice : ∃ (log : RegistrationLog)
    (c : Config Registration Tbl PyExc String),
    Apart (Registration.prog Utc.bare plainFormats) Cond.any (Registration.clash Utc.bare)
        (.quiet ⟨oneInvite, 0⟩) log c ∧
      log.map (fun e => e.result.isOk) = [false, true] ∧ attributed Utc.bare "X" log = 1 ∧
        ∀ code, attributed Utc.bare code log ≤ 1 := by
  obtain ⟨log, c, hrun, hlog⟩ := Apart.exists_of_steps (Registration.prog Utc.bare plainFormats)
    Cond.any (Registration.clash Utc.bare) (.quiet ⟨oneInvite, 0⟩) invitingTwice
    (fun log _ => (log.map fun e => e.result.isOk, attributed Utc.bare "X" log))
    (b := ([false, true], 1)) (by decide +kernel)
  obtain ⟨hok, hone⟩ := Prod.mk.inj hlog
  exact ⟨log, c, hrun, hok, hone, invite_code_used_once oneInvite_off hrun⟩

/-- Two registrations with the code: the second one has read the active row before the first one
    marks it as used, and waits for it to commit when it marks the row itself. -/
def invitingTogether : List (Event Registration) :=
  .begin (invited 2 "b@example.com") :: .begin (invited 3 "c@example.com") ::
    List.replicate 27 (.exec 0) ++ List.replicate 27 (.exec 1) ++
      List.replicate 9 (.exec 0) ++ [.finish 0] ++ List.replicate 9 (.exec 0) ++ [.finish 0]

/-- **Registrations that overlap share a code**: both create an account of its owner, while the
    setting that keeps codes in use is off. -/
theorem overlapping_registrations_share_code : ∃ (log : RegistrationLog)
    (c : Config Registration Tbl PyExc String),
    ReadsAs Utc.bare neverExpireSetting 0 0 oneInvite ∧
      Apart (Registration.prog Utc.bare plainFormats) Cond.any (fun _ _ => false)
        (.quiet ⟨oneInvite, 0⟩) log c ∧
      attributed Utc.bare "X" log = 2 ∧
        (c.state.db .users).rows.map User.invite_user_id = [none, some 1, some 1] := by
  obtain ⟨log, c, hrun, hlog⟩ := Apart.exists_of_steps (Registration.prog Utc.bare plainFormats)
    Cond.any (fun _ _ => false) (.quiet ⟨oneInvite, 0⟩) invitingTogether
    (fun log c => (attributed Utc.bare "X" log, (c.state.db .users).rows.map User.invite_user_id))
    (b := (2, [none, some 1, some 1])) (by decide +kernel)
  obtain ⟨htwo, husers⟩ := Prod.mk.inj hlog
  exact ⟨log, c, oneInvite_off, hrun, htwo, husers⟩

end PyBoard
