/-
  PyBoard.Specs.Registering — the code that a registration presents.

  No request about accounts changes a setting, and only a registration stores a copy of
  `email_verify`.  So the setting reads the same all along a run, and where it is on, a
  registration presents the code that stands for its address; where none stands, the text
  that Python writes for `None` takes its place.

  Main results:
    * `email_verify_stays`.
    * `AuthService.register_presents`.
-/
import PyBoard.Specs.Handing

namespace PyBoard

open Relational

variable {rt : Runtime} {fm : Formats} {libs : PasswordLibs} {α : Type} {n : Int}

/-! ## §1. Writes. -/

/-- The statement writes only what `W` allows. -/
def Stmt.WritesOnly (W : Write Tbl → Prop) (st : Stmt Tbl) : Prop :=
  ∀ (s : State Tbl) (ss : Session Tbl), Only W s ss.ws → Only W s (st.exec s ss).2.ws

/-- A program of such statements. -/
theorem steady_of_obeys {L : Type} {C : Contract L Tbl} {W : Write Tbl → Prop} {p : Db α}
    (hp : p.Obeys (Stmt.WritesOnly W)) : C.Steady (Only W) p := by
  intro s ss hi hj
  induction p generalizing s ss with
  | ret a => exact hj
  | throw e => exact hj
  | step st k ih =>
    intro s' _ hi' _
    exact ih _ (hp.2 _) s' _ hi' (hp.1 s' ss hj)

section

variable {W : Write Tbl → Prop} {t : Tbl}

theorem writesOnly_update {old new : t.Row} (h : ∀ r : t.Row, W (.put t r)) :
    Stmt.WritesOnly W (.update t old new) := by
  intro s ss hj
  rw [Stmt.exec_update]
  split
  · exact hj
  · exact Only.append (s := s) hj (h _)

theorem writesOnly_insert {r : t.Row} (h : W (.put t r)) : Stmt.WritesOnly W (.insert t r) := by
  intro s ss hj
  rw [Stmt.exec_insert]
  split
  · exact hj
  · exact Only.append (s := s) hj h

theorem writesOnly_upsert {r : t.Row} {f : t.Row → t.Row} (hnew : W (.put t r))
    (hold : ∀ cur, t.key cur = t.key r → W (.put t (t.merge cur (f cur) cur))) :
    Stmt.WritesOnly W (.upsert t r f) := by
  intro s ss hj
  rw [Stmt.exec_upsert]
  split
  · exact Only.append (s := s) hj hnew
  · next cur hcur => exact Only.append (s := s) hj (hold cur (Table.key_of_get? hcur))

theorem writesOnly_delete {k : t.Key} (h : W (.del t k)) : Stmt.WritesOnly W (.delete t k) := by
  intro s ss hj
  rw [Stmt.exec_delete]
  split
  · exact hj
  · exact Only.append (s := s) hj h

end

/-! ## §2. The setting. -/

/-- The key of the copy of the setting. -/
abbrev emailVerifyKey : String := SettingService.Cached.cacheKey emailVerifySetting

/-- A row of another table, or of the cache under another key. -/
theorem keepsReading_put {t : Tbl} (hne : t ≠ .setting) {r : t.Row}
    (hrow : ∀ row : RuntimeCacheRow, Write.put t r = .put Tbl.runtime_cache row →
      row.key ≠ emailVerifyKey) : KeepsReading rt emailVerifySetting n (.put t r) :=
  ⟨hne, fun row hw hkey => absurd hkey (hrow row hw)⟩

theorem keepsReading_account {t : Tbl} (ht : t ∈ accountTables) (r : t.Row) :
    KeepsReading rt emailVerifySetting n (.put t r) := by
  have hne : t ≠ .setting ∧ t ≠ .runtime_cache := by
    revert ht
    cases t <;> decide
  refine keepsReading_put hne.1 fun row hw => ?_
  cases hw
  exact absurd rfl hne.2

theorem keepsReading_removal {t : Tbl} (hne : t ≠ .setting) (k : t.Key) :
    KeepsReading rt emailVerifySetting n (.del t k) := ⟨hne, fun row hw => by cases hw⟩

/-- Apart from registrations, the requests keep the setting and its copy. -/
theorem works_keepsReading :
    Works (Stmt.WritesOnly (KeepsReading rt emailVerifySetting n))
      fun key => key ≠ emailVerifyKey := by
  have hcache : Tbl.runtime_cache ≠ .setting := by decide
  have hput : ∀ row : RuntimeCacheRow, row.key ≠ emailVerifyKey →
      KeepsReading rt emailVerifySetting n (.put Tbl.runtime_cache row) := by
    intro row hkey
    refine keepsReading_put hcache fun row' hw => ?_
    cases hw
    exact hkey
  constructor
  · exact {
      reads := fun {st} h => by
        cases st with
        | get t k lock => exact fun s ss hj => hj
        | select t p lock => exact fun s ss hj => hj
        | tryLock t k granted => exact fun s ss hj => hj
        | clock => exact fun s ss hj => hj
        | update t old new => exact h.elim
        | insert t r => exact h.elim
        | upsert t r f => exact h.elim
        | delete t k => exact h.elim
        | rollback => exact h.elim
      upsert := fun {row f} hkey _ => by
        refine writesOnly_upsert (hput row hkey) fun cur hcur => hput _ ?_
        have heq : RuntimeCacheRow.key cur = row.key := hcur
        show cur.key ≠ emailVerifyKey
        rw [heq]
        exact hkey
      insert := fun {row} hkey => writesOnly_insert (hput row hkey)
      delete := fun key => writesOnly_delete (keepsReading_removal hcache _)
      settings := fun hkey heq => hkey (cacheKey_injective heq)
      registrations := fun ip => append_ne_append 1 (by decide) (by decide) (by decide) _ _
      mails := fun ip => append_ne_append 1 (by decide) (by decide) (by decide) _ _
      sends := fun email => append_ne_append 1 (by decide) (by decide) (by decide) _ _ }
  · exact fun ht old new => writesOnly_update (keepsReading_account ht)
  · exact fun ht r => writesOnly_insert (keepsReading_account ht r)
  · intro t ht k
    refine writesOnly_delete (keepsReading_removal ?_ k)
    revert ht
    cases t <;> decide

section

variable {L : Type} {C : Contract L Tbl}
  (hC : ∀ s, C.Inv s → ReadsAs rt emailVerifySetting 0 n s.db)

include hC

/-- A read of the setting gives `n`. -/
theorem wp_getInt_emailVerify {s : State Tbl} {ss : Session Tbl} (hi : C.Inv s)
    (hj : Only (KeepsReading rt emailVerifySetting n) s ss.ws) :
    wp C (SettingService.Cached.getInt rt emailVerifySetting 0) (fun r s' ss' =>
      Only (KeepsReading rt emailVerifySetting n) s' ss'.ws ∧ ∀ m, r = .ok m → m = n) s ss := by
  refine wp_getInt_readsAs hC (fun _ h => h) (fun row _ hreads => ?_) ?_ hi hj
  · refine ⟨show Tbl.runtime_cache ≠ .setting by decide, fun row' hw _ => ?_⟩
    cases hw
    exact hreads
  · exact keepsReading_removal (by decide) _

/-- A registration keeps the setting. -/
theorem AuthService.steady_register_emailVerify (http : TurnstileService.Siteverify)
    (drawn : Drawn) (data : UserCreate) (client_ip : Option String) :
    C.Steady (Only (KeepsReading rt emailVerifySetting n))
      (register rt fm http drawn data client_ip) := by
  have hw : Works (Stmt.WritesOnly (KeepsReading rt emailVerifySetting n))
      fun key => key ≠ emailVerifyKey := works_keepsReading
  have hserves := hw.toServes
  refine .bind (steady_of_obeys (SettingService.Cached.obeys_getInt hserves
    (hserves.settings (by decide)) _)) fun stop => .ite (.throw _) ?_
  refine .bind (steady_of_obeys (obeys_checkEmailPolicy hserves _)) fun _ =>
    .bind (steady_of_obeys (obeys_checkRegisterLimit hserves _)) fun _ =>
    .bind (steady_of_obeys (TurnstileService.obeys_verifyIfEnabled hserves _ _ _)) fun _ => ?_
  refine .bind (fun s ss hi hj => ?_) fun verify => steady_of_obeys ?_
  · exact wp_mono (wp_getInt_emailVerify hC hi hj) fun _ _ _ h => h.1
  · refine .bind (obeys_whenever (obeys_verifyEmailCode hserves _ _)) fun _ =>
      .bind (obeys_emailExists hserves _) fun taken => .ite (.throw _) ?_
    refine .bind (obeys_resolveInviteUserId hserves
      (hw.change (t := Tbl.invite_code) (by decide)) _) fun inviter =>
      .bind (obeys_time hserves) fun now => .bind (works_create hw (by decide) _) fun _ => ?_
    exact .bind (RuntimeCache.obeys_delete hserves _) fun _ =>
      .bind (obeys_time hserves) fun _ => .ret _

end

/-- The setting of a run. -/
def cachingContract (rt : Runtime) (n : Int) : Contract AccountOp Tbl :=
  meeting (ReadsAs rt emailVerifySetting 0 n)

/-- Every request keeps the setting. -/
theorem AccountOp.keeps_setting (op : AccountOp) :
    (cachingContract rt n).Keeps op (op.prog rt fm libs) := by
  intro s hi
  have hsteady : (cachingContract rt n).Steady (Only (KeepsReading rt emailVerifySetting n))
      (op.prog rt fm libs) := by
    have hcode : ∀ email, AuthService.emailVerifyCodeKey email ≠ emailVerifyKey :=
      fun email => append_ne_append 1 (by decide) (by decide) (by decide) _ _
    have hlink : ∀ code, tempTokenKey code ≠ emailVerifyKey :=
      fun code => append_ne_append 1 (by decide) (by decide) (by decide) _ _
    cases op with
    | register http drawn data client_ip =>
      exact .bind (AuthService.steady_register_emailVerify (fun _ h => h) http drawn data client_ip)
        fun _ => .ret _
    | _ => exact steady_of_obeys (AccountOp.works works_keepsReading hcode hlink _ fun h => h.elim)
  refine wp_mono (hsteady s Session.fresh hi (.nil _ _)) fun r s' ss' hj => ?_
  cases r with
  | error e => trivial
  | ok a => exact fun s₁ _ hi₁ _ => ReadsAs.apply hi₁ hj

/-- **The setting stays as it is** while only requests about accounts run. -/
theorem email_verify_stays {db : Database} {now : Int} {c : Config AccountOp Tbl PyExc Unit}
    (hdb : ReadsAs rt emailVerifySetting 0 n db) (hrun : AccountRuns rt fm libs db now c) :
    ReadsAs rt emailVerifySetting 0 n c.state.db :=
  (hrun.sound (C := cachingContract rt n) (fun l _ => l.keeps_setting) (.quiet hdb)).inv

/-! ## §3. The code of a registration. -/

section

variable {R : Database → Prop} {lo hi : Int} {s : State Tbl} {ss : Session Tbl} {L : Type}
  {β : Type} {Post : Except PyExc β → State Tbl → Session Tbl → Prop}

/-- The code of a registration: one that stands for its address at a moment, or the text of
    `None`. -/
def AuthService.UserCreate.Presents (rt : Runtime) (M : Int → Database → Prop)
    (data : AuthService.UserCreate) : Prop :=
  ∃ code, data.email_code = some code ∧ (code = "None" ∨ ∃ v row,
    Stands M (AuthService.emailVerifyCodeKey data.email) v row ∧ rt.str v = code)

/-- A registration that has kept the setting, and has issued no code. -/
structure Registering (rt : Runtime) (n : Int) (R : Database → Prop) (lo : Int) (s : State Tbl)
    (ss : Session Tbl) : Prop where
  keeps : Only (KeepsReading rt emailVerifySetting n) s ss.ws
  unissued : Unissued R lo s ss

/-- A part of it that does nothing else, and the rest. -/
theorem Registering.bind {p : Db α} {f : α → Db β} (h : Registering rt n R lo s ss)
    (hkeeps : p.Obeys (Stmt.WritesOnly (KeepsReading rt emailVerifySetting n)))
    (hdiscreet : Discreet p) (herr : ∀ e s' ss', Post (.error e) s' ss')
    (hf : ∀ a s' ss', Registering rt n R lo s' ss' →
      wp (meeting R : Contract L Tbl) (f a) (Within hi Post) s' ss') :
    wp (meeting R : Contract L Tbl) (p.bind f) (Within hi Post) s ss := by
  refine (wp_bind _ _ _ _ _).mpr (wp_mono (wp_and
    (steady_of_obeys hkeeps s ss h.unissued.met h.keeps)
    (h.unissued.wp_respects discreet_lawful hdiscreet)) ?_)
  intro r s' ss' hend
  cases r with
  | error e => exact fun _ => herr e s' ss'
  | ok a => exact hf a s' ss' ⟨hend.1, hend.2⟩

/-- **A registration presents a code** where the setting is on. -/
theorem AuthService.register_presents (hR : ∀ D, R D → ReadsAs rt emailVerifySetting 0 n D)
    (hn : n ≠ 0) (http : TurnstileService.Siteverify) (drawn : Drawn) (data : UserCreate)
    (client_ip : Option String) (h : Registering rt n R lo s ss) :
    wp (meeting R : Contract L Tbl) (register rt fm http drawn data client_ip)
      (Within hi fun r _ _ => ∀ token, r = .ok token → data.Presents rt (During R lo hi)) s ss := by
  have hk : Works (Stmt.WritesOnly (KeepsReading rt emailVerifySetting n))
      fun key => key ≠ emailVerifyKey := works_keepsReading
  have hd := works_discreet
  have herr : ∀ (e : PyExc) (token : String), (.error e : Except PyExc String) = .ok token →
      data.Presents rt (During R lo hi) := fun _ _ h => by cases h
  unfold register
  refine Registering.bind h
    (SettingService.Cached.obeys_getInt hk.toServes (hk.settings (by decide)) _)
    (SettingService.Cached.obeys_getInt hd.toServes (hd.settings (by decide)) _)
      (fun e _ _ => herr e)
    fun stop s₁ ss₁ h₁ => ?_
  refine wp_ite (fun _ _ => herr _) fun _ => ?_
  refine Registering.bind h₁ (obeys_checkEmailPolicy hk.toServes _)
    (obeys_checkEmailPolicy hd.toServes _) (fun e _ _ => herr e) fun _ s₂ ss₂ h₂ => ?_
  refine Registering.bind h₂ (obeys_checkRegisterLimit hk.toServes _)
    (obeys_checkRegisterLimit hd.toServes _) (fun e _ _ => herr e) fun _ s₃ ss₃ h₃ => ?_
  refine Registering.bind h₃ (TurnstileService.obeys_verifyIfEnabled hk.toServes _ _ _)
    (TurnstileService.obeys_verifyIfEnabled hd.toServes _ _ _) (fun e _ _ => herr e)
    fun _ s₄ ss₄ h₄ => ?_
  -- the setting is read, and it is on
  refine (wp_bind _ _ _ _ _).mpr (wp_mono (wp_and
    (wp_getInt_emailVerify (fun s hi => hR s.db hi) h₄.unissued.met h₄.keeps)
    (h₄.unissued.wp_respects discreet_lawful
      (SettingService.Cached.obeys_getInt hd.toServes emailVerify_not_secret _))) ?_)
  intro r s₅ ss₅ hread
  obtain ⟨⟨-, hverify⟩, h₅⟩ := hread
  cases r with
  | error e => exact fun _ => herr e
  | ok verify =>
    have hon : verify ≠ 0 := by
      rw [hverify verify rfl]
      exact hn
    simp only [whenever, hon, ne_eq, not_false_eq_true, if_true]
    -- the code is compared before anything else is done
    refine Within.bind (Q := fun r _ _ => ∀ u, r = .ok u → data.Presents rt (During R lo hi)) ?_
      (fun e _ _ _ => herr e) fun u _ _ hcode => wp_always fun _ _ _ _ _ _ => hcode u rfl
    unfold verifyEmailCode
    split
    · exact fun _ _ h => by cases h
    · next code hsent =>
      refine Within.bind (Unissued.wp_secret h₅ (isSecret_code data.email))
        (fun _ _ _ _ _ h => by cases h)
        fun value s₆ ss₆ hvalue => wp_ite (fun _ _ _ h => by cases h) fun hsame => ?_
      refine fun _ _ _ => ⟨code, (Option.filter_eq_some_iff.mp hsent).1, ?_⟩
      rw [ne_eq, not_not] at hsame
      cases value with
      | none => exact Or.inl hsame.symm
      | some v =>
        obtain ⟨row, hrow⟩ := hvalue.2 v rfl
        exact Or.inr ⟨v, row, hrow, hsame⟩

end

end PyBoard
