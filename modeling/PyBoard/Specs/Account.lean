/-
  PyBoard.Specs.Account — what the account services write besides accounts.

  Reading settings, counting requests, answering codes and looking accounts up reads, and
  writes some rows of the runtime cache.  `Serves P K` says that these statements satisfy `P`,
  where `K` are the keys that rows of the cache are stored under; one lemma for each
  service says that its statements do.
-/
import PyBoard.Controllers.Account
import PyBoard.Specs.Permits

namespace PyBoard

open Relational

variable {rt : Runtime} {fm : Formats} {α : Type}

/-! ## §1. Statements. -/

/-- The statement reads. -/
def Stmt.Reads : Stmt Tbl → Prop
  | .get .. | .select .. | .tryLock .. | .clock => True
  | _ => False

/-- The setting that only a registration reads. -/
def emailVerifySetting : String := "email_verify"

/-- `self.repo.update(user)` is that of every repository. -/
theorem UserRepository.update_eq_updateRow (old new : User) :
    UserRepository.update old new = updateRow .users old new := by
  show Prog.bind _ _ = Prog.bind _ _
  congr 1
  funext _
  show Prog.bind _ _ = Prog.bind _ _
  congr 1
  funext found
  cases found <;> rfl

/-- Statements that read, and statements of the cache, satisfy `P`. -/
structure Serves (P : Stmt Tbl → Prop) (K : String → Prop) : Prop where
  reads : ∀ {st}, Stmt.Reads st → P st
  upsert : ∀ {row : RuntimeCacheRow} {f : RuntimeCacheRow → RuntimeCacheRow}, K row.key →
    (∀ cur, (f cur).key = cur.key) → P (.upsert Tbl.runtime_cache row f)
  insert : ∀ {row : RuntimeCacheRow}, K row.key → P (.insert Tbl.runtime_cache row)
  delete : ∀ key : String, P (.delete Tbl.runtime_cache key)
  settings : ∀ {key}, key ≠ emailVerifySetting → K (SettingService.Cached.cacheKey key)
  registrations : ∀ ip, K (AuthService.registerLimitKey ip)
  mails : ∀ ip, K (AuthService.emailVerifyRateKey ip)
  sends : ∀ email, K (AuthService.emailVerifyLastSendKey email)

/-- None of them writes a row of another table. -/
theorem Serves.spares {t : Tbl} (ht : Tbl.runtime_cache ≠ t) :
    Serves (Stmt.Spares t) fun _ => True where
  reads {st} h := by
    cases st with
    | get t' k lock => trivial
    | select t' p lock => trivial
    | tryLock t' k granted => trivial
    | clock => trivial
    | update t' old new => exact h.elim
    | insert t' r => exact h.elim
    | upsert t' r f => exact h.elim
    | delete t' k => exact h.elim
    | rollback => exact h.elim
  upsert _ _ := ht
  insert _ := ht
  delete _ := ht
  settings _ := trivial
  registrations _ := trivial
  mails _ := trivial
  sends _ := trivial

variable {P : Stmt Tbl → Prop} {K : String → Prop} (hs : Serves P K)

include hs

theorem Serves.imp {P' : Stmt Tbl → Prop} (h : ∀ st, P st → P' st) : Serves P' K where
  reads hst := h _ (hs.reads hst)
  upsert hkey hf := h _ (hs.upsert hkey hf)
  insert hkey := h _ (hs.insert hkey)
  delete key := h _ (hs.delete key)
  settings := hs.settings
  registrations := hs.registrations
  mails := hs.mails
  sends := hs.sends

/-! ## §2. Reads. -/

theorem obeys_time : (time : Db Int).Obeys P := .stmt (hs.reads trivial)

omit hs in
theorem obeys_liftExcept (x : Except PyExc α) : (liftExcept x).Obeys P := by
  cases x with
  | ok a => exact .ret a
  | error e => exact .throw e

omit hs in
theorem obeys_scalarOneOrNone (l : List α) : (scalarOneOrNone l).Obeys P := by
  match l with
  | [] => exact .ret _
  | [_] => exact .ret _
  | _ :: _ :: _ => exact .throw _

omit hs in
theorem obeys_whenever {c : Prop} [Decidable c] {p : Db Unit} (hp : p.Obeys P) :
    (whenever c p).Obeys P := .ite hp (.ret _)

theorem obeys_selectOne (t' : Tbl) (p : t'.Row → Bool) :
    (Prog.bind (Prog.select t' p) scalarOneOrNone : Db _).Obeys P :=
  .bind (.stmt (hs.reads trivial)) fun _ => obeys_scalarOneOrNone _

theorem obeys_emailExists (email : String) : (UserRepository.emailExists email).Obeys P :=
  .bind (obeys_selectOne hs _ _) fun _ => .ret _

/-! ## §3. The runtime cache and the settings. -/

theorem RuntimeCache.obeys_deleteRows (p : RuntimeCacheRow → Bool) :
    (Prog.deleteReturning Tbl.runtime_cache p : Db _).Obeys P :=
  .deleteReturning (hs.reads trivial) (fun _ => hs.reads trivial) fun _ _ => hs.delete _

theorem RuntimeCache.obeys_deleteExpiredKey (key : String) (now : Int) :
    (RuntimeCache.deleteExpiredKey key now).Obeys P :=
  .bind (RuntimeCache.obeys_deleteRows hs _) fun _ => .ret _

theorem RuntimeCache.obeys_get (key : String) : (RuntimeCache.get key).Obeys P :=
  .bind (obeys_time hs) fun _ => .bind (.stmt (hs.reads trivial)) fun _ =>
    .bind (obeys_whenever (obeys_deleteExpiredKey hs key _)) fun _ => .ret _

theorem RuntimeCache.obeys_set {key : String} (hkey : K key) (value : Json) (ex : Option Int)
    (nx : Bool) : (RuntimeCache.set key value ex nx).Obeys P := by
  refine .bind (obeys_time hs) fun now => .ite ?_ ?_
  · exact .bind (obeys_deleteExpiredKey hs key now) fun _ => .stmt (hs.insert hkey)
  · exact .bind (.stmt (hs.upsert hkey fun _ => rfl)) fun _ => .ret _

theorem RuntimeCache.obeys_delete (keys : List String) : (RuntimeCache.delete keys).Obeys P :=
  .ite (.ret _)
    (.bind (RuntimeCache.obeys_deleteRows hs _) fun _ => .ret _)

omit hs in
/-- A row that is counted up keeps its key. -/
theorem RuntimeCache.increment_key (row : RuntimeCacheRow) (now : Int) (cur : RuntimeCacheRow) :
    (increment rt row now cur).key = cur.key := by
  unfold increment
  split
  · rfl
  · rfl

theorem RuntimeCache.obeys_incr {key : String} (hkey : K key) (ex : Option Int) :
    (RuntimeCache.incr rt key ex).Obeys P :=
  .bind (obeys_time hs) fun _ => .bind (.stmt (hs.upsert hkey (increment_key _ _))) fun _ =>
    .ite (.ret _) (.throw _)

theorem RuntimeCache.obeys_cleanupExpired : RuntimeCache.cleanupExpired.Obeys P :=
  .bind (obeys_time hs) fun _ =>
    .bind (RuntimeCache.obeys_deleteRows hs _) fun _ => .ret _

namespace SettingService.Cached

theorem obeys_getCached {key : String} (hkey : K (cacheKey key)) :
    (getCached rt key).Obeys P := by
  refine .bind (RuntimeCache.obeys_get hs _) fun found => ?_
  cases found with
  | some val => exact .ret _
  | none =>
    refine .bind (obeys_selectOne hs _ _) fun item => ?_
    cases item with
    | none => exact .ret _
    | some item =>
      exact .bind (.bind (RuntimeCache.obeys_set hs hkey _ _ _) fun _ => .ret _)
        fun _ => .ret _

theorem obeys_getStr {key : String} (hkey : K (cacheKey key)) (default : String) :
    (getStr rt key default).Obeys P :=
  .bind (obeys_getCached hs hkey) fun _ => .ret _

theorem obeys_getInt {key : String} (hkey : K (cacheKey key)) (default : Int) :
    (getInt rt key default).Obeys P := by
  refine .bind (obeys_getCached hs hkey) fun val => ?_
  cases val with
  | none => exact .ret _
  | some val =>
    dsimp only
    cases rt.int_of_str val with
    | none => exact .throw _
    | some i => exact .ret _

theorem obeys_getJson {key : String} (hkey : K (cacheKey key)) (default : Json) :
    (getJson rt key default).Obeys P := by
  refine .bind (obeys_getCached hs hkey) fun val => ?_
  cases val with
  | none => exact .ret _
  | some val =>
    dsimp only
    cases rt.orjson_loads val with
    | none => exact .throw _
    | some v => exact .ret _

end SettingService.Cached

/-! ## §4. Registration, codes and links. -/

theorem TurnstileService.obeys_verifyIfEnabled (http : Siteverify)
    (token remote_ip : Option String) : (verifyIfEnabled rt http token remote_ip).Obeys P := by
  refine .bind (SettingService.Cached.obeys_getInt hs (hs.settings (by decide)) _) fun enable =>
    .ite (.ret _) ?_
  refine .bind (SettingService.Cached.obeys_getStr hs (hs.settings (by decide)) _) fun secret => ?_
  refine .ite (.throw _) (.ite (.throw _) ?_)
  split
  · exact .throw _
  · exact .ite (.ret _) (.throw _)

namespace AuthService

open SettingService.Cached TurnstileService

theorem obeys_checkEmailPolicy (email : String) : (checkEmailPolicy rt email).Obeys P := by
  refine .bind (obeys_getInt hs (hs.settings (by decide)) _) fun enable =>
    .bind (obeys_whenever ?_) fun _ => ?_
  · refine .bind (obeys_getJson hs (hs.settings (by decide)) _) fun suffixes => ?_
    exact .bind (obeys_liftExcept _) fun allowed => .ite (.ret _) (.throw _)
  · exact .bind (obeys_getInt hs (hs.settings (by decide)) _) fun _ => .ite (.throw _) (.ret _)

theorem obeys_checkRegisterLimit (client_ip : Option String) :
    (checkRegisterLimit rt client_ip).Obeys P := by
  unfold checkRegisterLimit
  split
  · exact .ret _
  · refine .bind (obeys_getInt hs (hs.settings (by decide)) _) fun enable => .ite (.ret _) ?_
    refine .bind (obeys_getInt hs (hs.settings (by decide)) _) fun count =>
      .bind (obeys_getInt hs (hs.settings (by decide)) _) fun _ => ?_
    exact .bind (RuntimeCache.obeys_incr hs (hs.registrations _) _) fun _ =>
      .ite (.throw _) (.ret _)

theorem obeys_checkEmailVerifyRate (client_ip : Option String) :
    (checkEmailVerifyRate rt client_ip).Obeys P := by
  unfold checkEmailVerifyRate
  split
  · exact .ret _
  · exact .bind (RuntimeCache.obeys_incr hs (hs.mails _) _) fun _ => .ite (.throw _) (.ret _)

theorem obeys_verifyEmailCode (email : String) (email_code : Option String) :
    (verifyEmailCode rt email email_code).Obeys P := by
  unfold verifyEmailCode
  split
  · exact .throw _
  · exact .bind (RuntimeCache.obeys_get hs _) fun _ => .ite (.throw _) (.ret _)

theorem obeys_createEmailVerifyCode (http : Siteverify) (drawn : Nat)
    {data : EmailVerifyRequest} (hkey : K (emailVerifyCodeKey data.email))
    (client_ip : Option String) :
    (createEmailVerifyCode rt http drawn data client_ip).Obeys P := by
  refine .bind (obeys_checkEmailVerifyRate hs _) fun _ =>
    .bind (obeys_checkEmailPolicy hs _) fun _ =>
    .bind (obeys_verifyIfEnabled hs _ _ _) fun _ =>
    .bind (obeys_emailExists hs _) fun found => .ite (.throw _) (.ite (.throw _) ?_)
  refine .bind (RuntimeCache.obeys_get hs _) fun last => .ite (.throw _) ?_
  exact .bind (RuntimeCache.obeys_set hs hkey _ _ _) fun _ => .bind (obeys_time hs) fun _ =>
    .bind (RuntimeCache.obeys_set hs (hs.sends _) _ _ _) fun _ => .ret _

theorem obeys_expectedCode (email : String) (email_code : Option String) :
    (expectedCode email email_code).Obeys P := by
  cases email_code with
  | none => exact RuntimeCache.obeys_get hs _
  | some code => exact .ret _

end AuthService

theorem obeys_sendEmailVerify (http : TurnstileService.Siteverify) (drawn : Nat)
    {data : AuthService.EmailVerifyRequest} (hkey : K (AuthService.emailVerifyCodeKey data.email))
    (client_ip : Option String) : (sendEmailVerify rt http drawn data client_ip).Obeys P :=
  .bind (AuthService.obeys_createEmailVerifyCode hs _ _ hkey _) fun _ =>
    .bind (SettingService.Cached.obeys_getStr hs (hs.settings (by decide)) _) fun _ =>
    .bind (SettingService.Cached.obeys_getStr hs (hs.settings (by decide)) _) fun _ => .ret _

theorem obeys_getQuickLoginUrl (user_id : Int) {code : String} (hkey : K (tempTokenKey code))
    (redirect : String) : (getQuickLoginUrl rt user_id code redirect).Obeys P :=
  .bind (RuntimeCache.obeys_set hs hkey _ _ _) fun _ =>
    .bind (SettingService.Cached.obeys_getStr hs (hs.settings (by decide)) _) fun _ => .ret _

/-! ## §5. Rows of other tables. -/

/-- The UPDATE of a row, and its refresh. -/
theorem obeys_updateRow {t : Tbl} [DecidableEq t.Row] {old new : t.Row}
    (hupd : P (.update t old new)) : (updateRow t old new).Obeys P := by
  refine .bind (obeys_whenever (.bind (.stmt hupd) fun found => .ite (.ret _) (.throw _)))
    fun _ => .bind (.stmt (hs.reads trivial)) fun found => ?_
  cases found with
  | none => exact .throw _
  | some obj => exact .ret _

theorem AuthService.obeys_resolveInviteUserId
    (hinvite : ∀ old new : InviteCode, P (.update Tbl.invite_code old new))
    (invite_code : Option String) :
    (resolveInviteUserId rt invite_code).Obeys P := by
  unfold resolveInviteUserId
  refine .bind (SettingService.Cached.obeys_getInt hs (hs.settings (by decide)) _) fun force => ?_
  split
  · exact .ite (.throw _) (.ret _)
  · refine .bind (obeys_selectOne hs _ _) fun invite => ?_
    cases invite with
    | none => exact .throw _
    | some invite =>
      refine .bind (SettingService.Cached.obeys_getInt hs (hs.settings (by decide)) _)
        fun never => ?_
      exact .bind (obeys_updateRow hs (hinvite _ _)) fun _ => .ret _

theorem AuthService.obeys_recordInvitePv
    (hinvite : ∀ old new : InviteCode, P (.update Tbl.invite_code old new))
    (invite_code : Option String) :
    (recordInvitePv rt invite_code).Obeys P := by
  unfold recordInvitePv
  split
  · exact .ret _
  · refine .bind (obeys_selectOne hs _ _) fun invite => ?_
    cases invite with
    | none => exact .ret _
    | some invite => exact .bind (obeys_updateRow hs (hinvite _ _)) fun _ => .ret _

namespace UserService

theorem obeys_existing (user_id : Int) (detail : String) : (existing user_id detail).Obeys P := by
  refine .bind (.stmt (hs.reads trivial)) fun found => ?_
  cases found with
  | none => exact .throw _
  | some user => exact .ret _

theorem obeys_ensureEmailAvailable (user : User) (sent : Sent String) :
    (ensureEmailAvailable user sent).Obeys P := by
  unfold ensureEmailAvailable
  split
  · exact .ite (.bind (obeys_emailExists hs _) fun _ => .ite (.throw _) (.ret _)) (.ret _)
  · exact .ret _

theorem obeys_generatedPlan (plan_id : Option Int) : (generatedPlan plan_id).Obeys P := by
  unfold generatedPlan
  split
  · exact .ret _
  · refine .bind (.stmt (hs.reads trivial)) fun found => ?_
    cases found with
    | none => exact .throw _
    | some plan => exact .ret _

theorem obeys_inviterOf (user : User) (data : AdminUserInviteSetter) :
    (inviterOf rt user data).Obeys P := by
  unfold inviterOf
  split
  · exact .ret _
  · refine .bind (obeys_selectOne hs _ _) fun found => ?_
    cases found with
    | none => exact .throw _
    | some invite_user => exact .ite (.throw _) (.ret _)

end UserService

/-! ## §6. Looking the account of a request up. -/

namespace AuthService

theorem obeys_getCurrentUser (token : String) : (getCurrentUser rt token).Obeys P := by
  refine .bind (.bind (obeys_time hs) fun now => ?_) fun user_id =>
    .bind (.stmt (hs.reads trivial)) fun found => ?_
  · cases rt.decode_user_id now token with
    | none => exact .throw _
    | some user_id => exact .ret _
  · cases found with
    | none => exact .throw _
    | some user => exact .ite (.throw _) (.ret _)

theorem obeys_requireAdmin (token : String) : (requireAdmin rt token).Obeys P :=
  .bind (obeys_getCurrentUser hs token) fun _ => .ite (.throw _) (.ret _)

end AuthService

end PyBoard
