/-
  PyBoard.Specs.Pages — when an action of the admin pages shows an error, and what it has
  written by then.

  The error of a service becomes a page, and the page is answered like any other, so
  whatever was written before the error is committed with it.
-/
import PyBoard.AdminUi.Orders
import PyBoard.Controllers.Account
import PyBoard.Relational.Serial
import PyBoard.Specs.Failures

namespace PyBoard

open Relational

variable {rt : Runtime} {s : State Tbl} {ss : Session Tbl}

/-- A `ValueError` or an `AppException`, which the forms answer. -/
def PyExc.isAnswered : PyExc → Bool
  | .app .. => true
  | .value _ => true
  | .other _ => false

/-- The program raises nothing that a form answers. -/
abbrev Unanswered {α : Type} (p : Db α) : Prop := Raises (·.isAnswered = false) p

theorem unanswered_save (t : Tbl) (old new : t.Row) : Unanswered (save t old new) :=
  raises_save (E := (·.isAnswered = false)) rfl t old new

theorem unanswered_create (t : Tbl) (r : t.Row) : Unanswered (create t r) :=
  raises_create (E := (·.isAnswered = false)) rfl t r

theorem unanswered_createUserRow (user : User) : Unanswered (createUserRow user) := by
  unfold createUserRow
  split
  · exact unanswered_create _ _
  · rfl

namespace AdminUi

/-! ## §1. The page of an error. -/

/-- The program shows an error, and has the session `ss'` then. -/
def ShowsError (p : Db Page) (s : State Tbl) (ss ss' : Session Tbl) : Prop :=
  ∃ message, p.run s ss = (.ok (.action_error message), ss')

/-- The program never shows an error. -/
def NeverShows (p : Db Page) : Prop := ∀ s ss ss', ¬ShowsError p s ss ss'

theorem neverShows_bind {α : Type} {p : Db α} {f : α → Db Page} (h : ∀ a, NeverShows (f a)) :
    NeverShows (p.bind f) := by
  rintro s ss ss' ⟨message, hrun⟩
  rw [Prog.run_bind] at hrun
  rcases hp : p.run s ss with ⟨e | a, ss₁⟩ <;> rw [hp] at hrun
  · cases hrun
  · exact h a s ss₁ ss' ⟨message, hrun⟩

theorem neverShows_table : NeverShows (return .table) := by
  rintro s ss ss' ⟨message, hrun⟩
  cases hrun

theorem neverShows_ordersTableResponse : NeverShows ordersTableResponse :=
  neverShows_bind fun _ => neverShows_table

theorem neverShows_usersTableResponse (query form : Form) :
    NeverShows (usersTableResponse rt query form) :=
  neverShows_bind fun _ => neverShows_bind fun _ => neverShows_bind fun _ =>
    neverShows_bind fun _ => neverShows_table

variable {service : Db Unit} {response : Db Page} {ss' : Session Tbl}

/-- The page of an action shows the `AppException`s of its service. -/
theorem orActionError_shows (hresponse : NeverShows response) :
    ShowsError (orActionError service response) s ss ss' ↔
      ∃ e, service.run s ss = (.error e, ss') ∧ e.isApp = true := by
  unfold ShowsError orActionError
  rw [Prog.bind_eq, Prog.run_bind, Prog.run_tryCatch, Prog.bind_eq, Prog.run_bind]
  rcases hrun : service.run s ss with ⟨e | _, ss₁⟩
  · cases e with
    | app code detail =>
      constructor
      · rintro ⟨_, ⟨⟩⟩
        exact ⟨_, rfl, rfl⟩
      · rintro ⟨_, ⟨⟩, -⟩
        exact ⟨detail, rfl⟩
    | _ =>
      refine iff_of_false ?_ ?_
      · rintro ⟨_, ⟨⟩⟩
      · rintro ⟨_, ⟨⟩, ⟨⟩⟩
  · refine iff_of_false (fun ⟨message, hpage⟩ => hresponse s ss₁ ss' ⟨message, hpage⟩) ?_
    rintro ⟨_, ⟨⟩, -⟩

/-- The page of a form shows the `ValueError`s as well. -/
theorem orFormError_shows (hresponse : NeverShows response) :
    ShowsError (orFormError service response) s ss ss' ↔
      ∃ e, service.run s ss = (.error e, ss') ∧ e.isAnswered = true := by
  unfold ShowsError orFormError
  rw [Prog.bind_eq, Prog.run_bind, Prog.run_tryCatch, Prog.bind_eq, Prog.run_bind]
  rcases hrun : service.run s ss with ⟨e | _, ss₁⟩
  · cases e with
    | app code detail =>
      constructor
      · rintro ⟨_, ⟨⟩⟩
        exact ⟨_, rfl, rfl⟩
      · rintro ⟨_, ⟨⟩, -⟩
        exact ⟨detail, rfl⟩
    | value msg =>
      constructor
      · rintro ⟨_, ⟨⟩⟩
        exact ⟨_, rfl, rfl⟩
      · rintro ⟨_, ⟨⟩, -⟩
        exact ⟨validationErrorMessage msg, rfl⟩
    | other name =>
      refine iff_of_false ?_ ?_
      · rintro ⟨_, ⟨⟩⟩
      · rintro ⟨_, ⟨⟩, ⟨⟩⟩
  · refine iff_of_false (fun ⟨message, hpage⟩ => hresponse s ss₁ ss' ⟨message, hpage⟩) ?_
    rintro ⟨_, ⟨⟩, -⟩

/-- The service of a form fails in the form or in what follows. -/
theorem run_parsed_error {α β : Type} {x : Except PyExc α} {p : α → Db β} {e : PyExc} :
    (do let data ← liftExcept x; let _done ← p data : Db Unit).run s ss = (.error e, ss') ↔
      (x = .error e ∧ ss = ss') ∨ ∃ data, x = .ok data ∧ (p data).run s ss = (.error e, ss') := by
  rw [Prog.bind_eq, Prog.run_bind, run_liftExcept]
  cases x with
  | error e' => simp
  | ok data =>
    dsimp only
    rw [Prog.bind_eq, Prog.run_bind]
    rcases hrun : (p data).run s ss with ⟨e' | b, ss₁⟩
    · simp [hrun]
    · refine iff_of_false (fun h => by cases h) ?_
      rintro (⟨⟨⟩, -⟩ | ⟨_, ⟨⟩, h⟩)
      rw [hrun] at h
      cases h

/-- **The request is granted**: an administrator who is not banned sends the form with the CSRF
    token of the cookie. -/
structure Granted (rt : Runtime) (s : State Tbl) (request : Request) (form : Form) : Prop where
  admin : ∃ token u, request.token = some token ∧ token ≠ "" ∧
    rt.decode_user_id s.now token = some (User.id u) ∧ (s.db .users).get? (User.id u) = some u ∧
      User.banned u = false ∧ User.is_admin u = true
  submitted : request.form = some form
  csrf : validCsrf request form = .ok true

/-- Who the page takes for its administrator. -/
theorem run_currentAdmin (request : Request) : ∃ admin : Option Int,
    (currentAdmin rt request).run s Session.fresh = (.ok admin, Session.fresh) ∧
      (admin.isSome = true ↔ ∃ token u, request.token = some token ∧ token ≠ "" ∧
        rt.decode_user_id s.now token = some (User.id u) ∧
          (s.db .users).get? (User.id u) = some u ∧ User.banned u = false ∧
            User.is_admin u = true) := by
  unfold currentAdmin
  cases request.token with
  | none => exact ⟨none, rfl, by simp⟩
  | some token =>
  dsimp only
  by_cases hempty : token = ""
  · rw [if_pos hempty]
    exact ⟨none, rfl, by simp [hempty]⟩
  rw [if_neg hempty, Prog.bind_eq]
  unfold time
  rw [Prog.run_clock_bind]
  simp only [Option.some.injEq, exists_and_left, exists_eq_left', and_iff_right hempty]
  cases hdecoded : rt.decode_user_id s.now token with
  | none => exact ⟨none, rfl, by simp⟩
  | some user_id =>
  dsimp only
  unfold UserRepository.getById
  rw [Prog.bind_eq, Prog.run_get_bind]
  rw [State.view_fresh]
  cases hstored : (s.db .users).get? user_id with
  | none =>
    refine ⟨none, rfl, iff_of_false (by simp) ?_⟩
    rintro ⟨u, hid, hu, -⟩
    rw [Option.some.inj hid, hu] at hstored
    cases hstored
  | some user =>
    have hid : user.id = user_id := Table.key_of_get? hstored
    refine ⟨_, rfl, ⟨fun hadmin => ?_, ?_⟩⟩
    · by_cases hno : User.banned user = true ∨ (!User.is_admin user) = true
      · rw [if_pos hno] at hadmin
        cases hadmin
      · refine ⟨user, by rw [hid], by rw [hid]; exact hstored, ?_⟩
        simpa using hno
    · rintro ⟨u, hu, hget, hbanned, hrole⟩
      rw [← Option.some.inj hu, hstored] at hget
      obtain rfl := Option.some.inj hget
      rw [if_neg (by simp [hbanned, hrole])]
      rfl

/-- **An action that is not granted** shows an error of its own at most. -/
theorem run_action (request : Request) (run : Form → Db Page) :
    (∃ form, Granted rt s request form ∧
      (action rt request run).run s Session.fresh = (run form).run s Session.fresh) ∨
    ((∀ form, ¬Granted rt s request form) ∧
      ((action rt request run).run s Session.fresh).2 = Session.fresh) := by
  obtain ⟨admin, hrun, hadmin⟩ := @run_currentAdmin rt s request
  unfold action
  rw [Prog.bind_eq, Prog.run_bind, hrun]
  cases admin with
  | none =>
    exact .inr ⟨fun form hgranted => by simpa using hadmin.mpr hgranted.admin, rfl⟩
  | some id =>
  have hadmin' := hadmin.mp rfl
  unfold formData
  cases hform : request.form with
  | none => exact .inr ⟨fun form hgranted => by simpa [hform] using hgranted.submitted, rfl⟩
  | some form =>
  have honly : ∀ form', Granted rt s request form' → form' = form := fun form' hgranted =>
    Option.some.inj (hgranted.submitted.symm.trans hform)
  simp only [Prog.bind_eq, Prog.pure_eq, Prog.bind, Prog.run_bind, run_liftExcept]
  cases hcsrf : validCsrf request form with
  | error e =>
    refine .inr ⟨fun form' hgranted => ?_, rfl⟩
    have hvalid := hgranted.csrf
    rw [honly form' hgranted, hcsrf] at hvalid
    cases hvalid
  | ok valid =>
  cases valid with
  | true => exact .inl ⟨form, ⟨hadmin', hform, hcsrf⟩, rfl⟩
  | false =>
    refine .inr ⟨fun form' hgranted => ?_, rfl⟩
    have hvalid := hgranted.csrf
    rw [honly form' hgranted, hcsrf] at hvalid
    cases hvalid

/-! ## §2. Atomic actions. -/

/-- **The action is atomic**: a page that shows an error leaves the database as it was. -/
def Atomic (p : Db Page) (s : State Tbl) : Prop :=
  ∀ message, (p.run s Session.fresh).1 = .ok (.action_error message) → (p.serve s).db = s.db

/-- What is left is what the session has written by then. -/
theorem atomic_iff {p : Db Page} :
    Atomic p s ↔ ∀ ss', ShowsError p s Session.fresh ss' → s.view ss' = s.db := by
  constructor
  · rintro h ss' ⟨message, hrun⟩
    have hkept := h message (congrArg Prod.fst hrun)
    rwa [Prog.serve_ok hrun] at hkept
  · intro h message hpage
    rcases hrun : p.run s Session.fresh with ⟨r, ss'⟩
    rw [hrun] at hpage
    cases hpage
    rw [Prog.serve_ok hrun]
    exact h ss' ⟨message, hrun⟩

/-- Only the handler of a granted request can leave something. -/
theorem atomic_action_iff {request : Request} {run : Form → Db Page} :
    Atomic (action rt request run) s ↔ ∀ form, Granted rt s request form → ∀ ss',
      ShowsError (run form) s Session.fresh ss' → s.view ss' = s.db := by
  rw [atomic_iff]
  unfold ShowsError
  rcases @run_action rt s request run with ⟨form, hgranted, hrun⟩ | ⟨hno, hsession⟩
  · rw [hrun]
    refine ⟨fun h form' hgranted' => ?_, fun h => h form hgranted⟩
    obtain rfl := Option.some.inj (hgranted'.submitted.symm.trans hgranted.submitted)
    exact h
  · refine iff_of_true ?_ fun form hgranted => absurd hgranted (hno form)
    rintro ss' ⟨message, hrun⟩
    rw [hrun] at hsession
    rw [show ss' = Session.fresh from hsession]
    rfl

/-- Before it raises what `answered` answers, the program has written nothing. -/
def ChecksFirst {α : Type} (answered : PyExc → Bool) (p : Db α) : Prop :=
  ∀ s ss e ss', p.run s ss = (.error e, ss') → answered e = true → ss' = ss

section

variable {α β : Type} {answered : PyExc → Bool}

theorem checksFirst_throw {e : PyExc} : ChecksFirst answered (Prog.throw e : Db α) := by
  rintro s ss e' ss' ⟨⟩ -
  rfl

/-- First it reads. -/
theorem checksFirst_bind {p : Db α} {f : α → Db β} (hp : Reads p)
    (hf : ∀ a, ChecksFirst answered (f a)) : ChecksFirst answered (p.bind f) := by
  intro s ss e ss' hrun hanswered
  rw [Prog.run_bind] at hrun
  rcases hread : p.run s ss with ⟨e' | a, ss₁⟩ <;> rw [hread] at hrun <;>
    rw [run_of_reads_eq hp hread] at hrun
  · exact (congrArg Prod.snd hrun).symm
  · exact hf a s ss e ss' hrun hanswered

/-- What it returns is dropped. -/
theorem ChecksFirst.void {p : Db α} (h : ChecksFirst answered p) :
    ChecksFirst answered (p.bind fun _ => (pure () : Db Unit)) := by
  intro s ss e ss' hrun hanswered
  rw [Prog.run_bind] at hrun
  rcases hp : p.run s ss with ⟨e' | a, ss₁⟩ <;> rw [hp] at hrun <;> cases hrun
  exact h s ss e ss' hp hanswered

/-- Then it raises nothing of that kind. -/
theorem checksFirst_of_raises {p : Db α} (h : Raises (fun e => answered e = false) p) :
    ChecksFirst answered p := by
  intro s ss e ss' hrun hanswered
  have hquiet : answered e = false := h.run (congrArg Prod.fst hrun)
  rw [hquiet] at hanswered
  cases hanswered

variable {request : Request} {service : Form → Db Unit} {response : Form → Db Page}

theorem atomic_orActionError (hresponse : ∀ form, NeverShows (response form))
    (h : ∀ form, ChecksFirst PyExc.isApp (service form)) :
    Atomic (action rt request fun form => orActionError (service form) (response form)) s := by
  refine atomic_action_iff.mpr fun form _ ss' hshows => ?_
  obtain ⟨e, hrun, happ⟩ := (orActionError_shows (hresponse form)).mp hshows
  rw [h form s Session.fresh e ss' hrun happ]
  rfl

theorem atomic_orFormError (hresponse : ∀ form, NeverShows (response form))
    (h : ∀ form, ChecksFirst PyExc.isAnswered (service form)) :
    Atomic (action rt request fun form => orFormError (service form) (response form)) s := by
  refine atomic_action_iff.mpr fun form _ ss' hshows => ?_
  obtain ⟨e, hrun, hanswered⟩ := (orFormError_shows (hresponse form)).mp hshows
  rw [h form s Session.fresh e ss' hrun hanswered]
  rfl

/-- Without an error to show there is nothing to be atomic about. -/
theorem atomic_of_neverShows {run : Form → Db Page} (h : ∀ form, NeverShows (run form)) :
    Atomic (action rt request run) s :=
  atomic_action_iff.mpr fun form _ ss' hshows => absurd hshows (h form s Session.fresh ss')

end

end AdminUi

namespace UserService

/-! ## §3. Generating accounts. -/

/-- How many accounts are asked for. -/
def AdminUserGenerate.count (data : AdminUserGenerate) : Int :=
  (data.generate_count.filter (· ≠ 0)).getD 1

/-- The account with an index. -/
def AdminUserGenerate.nth (rt : Runtime) (data : AdminUserGenerate) (count : Int)
    (plan : Option Plan) (draws : Nat → Generated) (i : Nat) : User :=
  data.user plan (generatedEmail rt data count i (draws i)) (draws i)

section

variable {account : Nat → User} {i : Nat}

/-- The accounts that are stored when the account with index `i` is generated. -/
def Present (s : State Tbl) (account : Nat → User) (i : Nat) (u : User) : Prop :=
  u ∈ (s.db .users).rows ∨ ∃ j < i, u = account j

/-- Its address is taken. -/
def AddressTaken (s : State Tbl) (account : Nat → User) (i : Nat) : Prop :=
  ∃ u, Present s account i u ∧ u.email = (account i).email

/-- **It can be stored**: the columns take it, and nothing about it is taken. -/
structure Storable (s : State Tbl) (account : Nat → User) (i : Nat) : Prop where
  fits : (account i).insertFits = true
  free : ∀ u, Present s account i u →
    u.id ≠ (account i).id ∧ u.email ≠ (account i).email ∧ u.token ≠ (account i).token

/-- **The generation stops** at the index `j`: the accounts from `i` on are stored, and then an
    address is taken. -/
structure StopsAt (s : State Tbl) (account : Nat → User) (i j : Nat) : Prop where
  stored : ∀ l, i ≤ l → l < j → Storable s account l
  taken : AddressTaken s account j

theorem StopsAt.cons {j : Nat} (h : StopsAt s account (i + 1) j)
    (hstorable : Storable s account i) : StopsAt s account i j := by
  refine ⟨fun l hle hlt => ?_, h.taken⟩
  rcases Nat.eq_or_lt_of_le hle with rfl | hlt'
  · exact hstorable
  · exact h.stored l hlt' hlt

/-- It stops once. -/
theorem StopsAt.unique {j j' : Nat} (h : StopsAt s account i j) (h' : StopsAt s account i j')
    (hj : i ≤ j) (hj' : i ≤ j') : j' = j := by
  have hnot : ∀ l, Storable s account l → ¬AddressTaken s account l :=
    fun l hstorable ⟨u, hu, hemail⟩ => (hstorable.free u hu).2.1 hemail
  rcases lt_trichotomy j j' with hlt | heq | hlt
  · exact absurd h.taken (hnot j (h'.stored j hj hlt))
  · exact heq.symm
  · exact absurd h'.taken (hnot j' (h.stored j' hj' hlt))

theorem present_succ {u : User} :
    Present s account (i + 1) u ↔ Present s account i u ∨ u = account i := by
  unfold Present
  constructor
  · rintro (h | ⟨j, hj, rfl⟩)
    · exact .inl (.inl h)
    · rcases Nat.lt_succ_iff_lt_or_eq.mp hj with hlt | rfl
      · exact .inl (.inr ⟨j, hlt, rfl⟩)
      · exact .inr rfl
  · rintro ((h | ⟨j, hj, rfl⟩) | rfl)
    · exact .inl h
    · exact .inr ⟨j, hj.trans i.lt_succ_self, rfl⟩
    · exact .inr ⟨i, i.lt_succ_self, rfl⟩

/-- The session holds the accounts up to `i`. -/
def Holds (s : State Tbl) (account : Nat → User) (i : Nat) (ss : Session Tbl) : Prop :=
  ∀ u, u ∈ (s.view ss .users).rows ↔ Present s account i u

/-- The addresses of the accounts up to `i` are all different. -/
def UniqueEmails (s : State Tbl) (account : Nat → User) (i : Nat) : Prop :=
  ∀ a b, Present s account i a → Present s account i b → a.email = b.email → a = b

theorem UniqueEmails.succ (h : UniqueEmails s account i) (hstorable : Storable s account i) :
    UniqueEmails s account (i + 1) := by
  intro a b ha hb heq
  rcases present_succ.mp ha with ha | rfl <;> rcases present_succ.mp hb with hb | rfl
  · exact h a b ha hb heq
  · exact absurd heq (hstorable.free a ha).2.1
  · exact absurd heq.symm (hstorable.free b hb).2.1
  · rfl

theorem Holds.succ (h : Holds s account i ss) (hstorable : Storable s account i) :
    Holds s account (i + 1) (ss.write (.put .users (account i))) := by
  intro u
  rw [view_write_self (t := .users), present_succ, ← h u]
  refine Table.mem_put.trans ⟨?_, ?_⟩
  · rintro (rfl | ⟨hu, -⟩)
    · exact .inr rfl
    · exact .inl hu
  · rintro (hu | rfl)
    · exact .inr ⟨hu, (hstorable.free u ((h u).mp hu)).1⟩
    · exact .inl rfl

/-- Whether an address is taken. -/
theorem run_emailExists (hholds : Holds s account i ss) (hunique : UniqueEmails s account i) :
    ∃ taken : Bool, (UserRepository.emailExists (account i).email).run s ss = (.ok taken, ss) ∧
      (taken = true ↔ AddressTaken s account i) := by
  unfold UserRepository.emailExists
  rw [Prog.bind_eq, Prog.run_bind]
  rcases @run_selectUnique s ss .users
    (fun u : User => u.email = (account i).email) (fun a ha b hb hae hbe =>
      hunique a b ((hholds a).mp ha) ((hholds b).mp hb)
        ((of_decide_eq_true hae).trans (of_decide_eq_true hbe).symm)) with
    ⟨u, hu, hemail, hrun⟩ | ⟨hnone, hrun⟩
  · refine ⟨true, ?_, iff_of_true rfl ⟨u, (hholds u).mp hu, of_decide_eq_true hemail⟩⟩
    rw [show (UserRepository.getByEmail (account i).email).run s ss = (.ok (some u), ss) from hrun]
    rfl
  · refine ⟨false, ?_, iff_of_false (by decide) fun ⟨u, hu, hemail⟩ =>
      hnone u ((hholds u).mpr hu) (decide_eq_true hemail)⟩
    rw [show (UserRepository.getByEmail (account i).email).run s ss = (.ok none, ss) from hrun]
    rfl

/-- The INSERT of an account. -/
theorem run_createUserRow (hholds : Holds s account i ss) :
    (Storable s account i ∧
      (createUserRow (account i)).run s ss = (.ok (), ss.write (.put .users (account i)))) ∨
    (¬Storable s account i ∧ ∃ name ss',
      (createUserRow (account i)).run s ss = (.error (.other name), ss')) := by
  unfold createUserRow
  by_cases hfits : (account i).insertFits = true
  swap
  · rw [if_neg hfits]
    exact .inr ⟨fun h => hfits h.fits, _, ss, rfl⟩
  rw [if_pos hfits]
  have hrefuses : (s.view ss).refuses .users (account i) = false ↔
      ∀ u, Present s account i u →
        u.id ≠ (account i).id ∧ u.email ≠ (account i).email ∧ u.token ≠ (account i).token := by
    unfold DB.refuses
    rw [List.any_eq_false]
    refine forall_congr' fun u => imp_congr (hholds u) ?_
    change ¬(decide (u.id = (account i).id) || (decide (u.email = (account i).email) ||
      decide (u.token = (account i).token))) = true ↔ _
    simp
  cases hrefused : (s.view ss).refuses .users (account i) with
  | false => exact .inl ⟨⟨hfits, hrefuses.mp hrefused⟩, run_create hrefused⟩
  | true =>
    refine .inr ⟨fun h => by simp [hrefuses.mpr h.free] at hrefused, "IntegrityError",
      ss.lock [⟨Tbl.users, (account i).id⟩], ?_⟩
    unfold create
    rw [Prog.bind_eq, Prog.run_insert_bind, Stmt.exec_insert, hrefused]
    rfl

variable {draws : Nat → Generated} {data : AdminUserGenerate} {count : Int} {plan : Option Plan}

/-- **A generation is stopped** with an answer exactly by an address that is taken, and the
    accounts before it are held by then.  The induction is on the accounts that are still to be
    generated. -/
theorem run_generateRounds (n : Nat)
    (hholds : Holds s (data.nth rt count plan draws) i ss)
    (hunique : UniqueEmails s (data.nth rt count plan draws) i) :
    (∃ j e ss', i ≤ j ∧ j < i + n ∧ StopsAt s (data.nth rt count plan draws) i j ∧
      (generateRounds rt data count plan draws (List.range' i n)).run s ss = (.error e, ss') ∧
        e.isAnswered = true ∧ Holds s (data.nth rt count plan draws) j ss' ∧
          (j = i → ss' = ss)) ∨
    ((∀ j, i ≤ j → j < i + n → ¬StopsAt s (data.nth rt count plan draws) i j) ∧
      ∀ e ss', (generateRounds rt data count plan draws (List.range' i n)).run s ss
        = (.error e, ss') → e.isAnswered = false) := by
  induction n generalizing i ss with
  | zero => exact .inr ⟨fun j hj hlt => by omega, fun e ss' hrun => by cases hrun⟩
  | succ n ih =>
  set account := data.nth rt count plan draws with haccount
  unfold generateRounds
  rw [List.range'_succ]
  dsimp only
  obtain ⟨taken, hexists, htaken⟩ := run_emailExists hholds hunique
  rw [Prog.bind_eq, Prog.run_bind, show (UserRepository.emailExists
    (generatedEmail rt data count i (draws i))).run s ss = (.ok taken, ss) from hexists]
  cases taken with
  | true =>
    refine .inl ⟨i, _, ss, le_rfl, by omega, ⟨fun l hle hlt => by omega, htaken.mp rfl⟩, rfl, rfl,
      hholds, fun _ => rfl⟩
  | false =>
  have hfree : ¬AddressTaken s account i := fun h => by cases htaken.mpr h
  dsimp only
  rw [if_neg (by decide), Prog.bind_eq, Prog.run_bind]
  rcases run_createUserRow hholds with ⟨hstorable, hrun⟩ | ⟨hno, name, ss', hrun⟩
  swap
  · rw [show (createUserRow (data.user plan (generatedEmail rt data count i (draws i))
      (draws i))).run s ss = (.error (.other name), ss') from hrun]
    refine .inr ⟨fun j hj _ hstops => ?_, fun e ss'' herror => ?_⟩
    · rcases Nat.eq_or_lt_of_le hj with rfl | hlt
      · exact hfree hstops.taken
      · exact hno (hstops.stored i le_rfl hlt)
    · cases herror
      rfl
  rw [show (createUserRow (data.user plan (generatedEmail rt data count i (draws i))
    (draws i))).run s ss = (.ok (), ss.write (.put .users (account i))) from hrun]
  dsimp only
  rw [Prog.bind_eq, Prog.run_bind]
  rcases ih (hholds.succ hstorable) (hunique.succ hstorable) with
    ⟨j, e, ss', hle, hlt, hstops, hrest, hanswered, hheld, -⟩ | ⟨hnone, hquiet⟩
  · refine .inl ⟨j, e, ss', by omega, by omega, hstops.cons hstorable, ?_, hanswered, hheld,
      fun hji => by omega⟩
    rw [hrest]
  · refine .inr ⟨fun j hj hlt hstops => ?_, fun e ss' herror => ?_⟩
    · rcases Nat.eq_or_lt_of_le hj with rfl | hlt'
      · exact hfree hstops.taken
      · exact hnone j hlt' (by omega) ⟨fun l hle => hstops.stored l (by omega), hstops.taken⟩
    · rcases hrest : (generateRounds rt data count plan draws (List.range' (i + 1) n)).run s
        (ss.write (.put .users (account i))) with ⟨e' | users, ss₁⟩ <;> rw [hrest] at herror
      · cases herror
        exact hquiet e ss' hrest
      · cases herror

/-- **The generation begins**: its suffix, its number and its plan pass. -/
structure Begins (s : State Tbl) (data : AdminUserGenerate) (plan : Option Plan) : Prop where
  email_suffix : data.email_suffix ≠ "" ∧ '@' ∉ data.email_suffix.toList
  count : 1 ≤ data.count ∧ data.count ≤ 500
  plan_id : data.plan_id.filter (· ≠ 0) = plan.map Plan.id
  stored : ∀ p, plan = some p → (s.db .plan).get? p.id = some p

theorem Begins.only {plan' : Option Plan} (h : Begins s data plan) (h' : Begins s data plan') :
    plan' = plan := by
  have hid := h'.plan_id.symm.trans h.plan_id
  cases plan with
  | none =>
    cases plan' with
    | none => rfl
    | some p => cases hid
  | some p =>
    cases plan' with
    | none => cases hid
    | some p' =>
      have hstored := h'.stored p' rfl
      rw [Option.some.inj hid, h.stored p rfl] at hstored
      exact congrArg some (Option.some.inj hstored).symm

/-- The plan is looked up, or unknown. -/
theorem run_generatedPlan (plan_id : Option Int) :
    (∃ plan, (generatedPlan plan_id).run s Session.fresh = (.ok plan, Session.fresh) ∧
      plan_id.filter (· ≠ 0) = plan.map Plan.id ∧
        ∀ p, plan = some p → (s.db .plan).get? p.id = some p) ∨
    (∃ e, (generatedPlan plan_id).run s Session.fresh = (.error e, Session.fresh) ∧
      ∀ plan : Option Plan, plan_id.filter (· ≠ 0) = plan.map Plan.id →
        ∃ p, plan = some p ∧ (s.db .plan).get? p.id = none) := by
  unfold generatedPlan
  cases hid : plan_id.filter (· ≠ 0) with
  | none => exact .inl ⟨none, rfl, rfl, fun p hp => by cases hp⟩
  | some plan_id =>
  dsimp only
  unfold PlanRepository.getById
  rw [Prog.bind_eq, Prog.run_get_bind, show s.view Session.fresh .plan = s.db .plan from rfl]
  cases hstored : (s.db .plan).get? plan_id with
  | none =>
    refine .inr ⟨_, rfl, fun plan hplan => ?_⟩
    cases plan with
    | none => cases hplan
    | some p => exact ⟨p, rfl, Option.some.inj hplan ▸ hstored⟩
  | some p =>
    have hkey : p.id = plan_id := Table.key_of_get? hstored
    refine .inl ⟨some p, rfl, by rw [Option.map_some, hkey], fun p' hp' => ?_⟩
    rw [← Option.some.inj hp', hkey]
    exact hstored

/-- The addresses that are stored are all different. -/
theorem uniqueEmails_zero (hemails : ∀ a ∈ (s.db .users).rows, ∀ b ∈ (s.db .users).rows,
    User.email a = User.email b → a = b) : UniqueEmails s account 0 := by
  rintro a b (ha | ⟨j, hj, -⟩) (hb | ⟨j', hj', -⟩) heq
  · exact hemails a ha b hb heq
  all_goals omega

theorem holds_fresh : Holds s account 0 Session.fresh := fun _ =>
  ⟨.inl, fun hu => hu.elim id fun ⟨j, hj, _⟩ => absurd hj (Nat.not_lt_zero j)⟩

/-- **A generation is stopped** with an answer at an address that is taken, or before anything is
    written. -/
theorem run_adminGenerateUsers (hemails : ∀ a ∈ (s.db .users).rows,
    ∀ b ∈ (s.db .users).rows, User.email a = User.email b → a = b) :
    (∃ plan j e ss', Begins s data plan ∧ j < data.count.toNat ∧
      StopsAt s (data.nth rt data.count plan draws) 0 j ∧
      (adminGenerateUsers rt draws data).run s Session.fresh = (.error e, ss') ∧
        e.isAnswered = true ∧ Holds s (data.nth rt data.count plan draws) j ss' ∧
          (j = 0 → ss' = Session.fresh)) ∨
    ((∀ plan j, Begins s data plan → j < data.count.toNat →
        ¬StopsAt s (data.nth rt data.count plan draws) 0 j) ∧
      ∀ e ss', (adminGenerateUsers rt draws data).run s Session.fresh = (.error e, ss') →
        e.isAnswered = true → ss' = Session.fresh) := by
  unfold adminGenerateUsers
  by_cases hsuffix : data.email_suffix = "" ∨ '@' ∈ data.email_suffix.toList
  · rw [if_pos hsuffix]
    refine .inr ⟨fun plan j hbegins => ?_, fun e ss' hrun _ => (congrArg Prod.snd hrun).symm⟩
    rcases hsuffix with hempty | hat
    · exact absurd hempty hbegins.email_suffix.1
    · exact absurd hat hbegins.email_suffix.2
  rw [if_neg hsuffix, show (data.generate_count.filter (· ≠ 0)).getD 1 = data.count from rfl]
  dsimp only
  by_cases hcount : data.count < 1 ∨ data.count > 500
  · rw [if_pos hcount]
    refine .inr ⟨fun plan j hbegins => ?_, fun e ss' hrun _ => (congrArg Prod.snd hrun).symm⟩
    have := hbegins.count
    omega
  rw [if_neg hcount, Prog.bind_eq, Prog.run_bind]
  rcases run_generatedPlan (s := s) data.plan_id with
    ⟨plan, hplan, hid, hstored⟩ | ⟨e, hplan, hunknown⟩
  swap
  · rw [hplan]
    refine .inr ⟨fun plan j hbegins => ?_, fun e ss' hrun _ => (congrArg Prod.snd hrun).symm⟩
    obtain ⟨p, hp, hnone⟩ := hunknown plan hbegins.plan_id
    rw [hbegins.stored p hp] at hnone
    cases hnone
  rw [hplan]
  dsimp only
  have hbegins : Begins s data plan :=
    ⟨⟨fun h => hsuffix (.inl h), fun h => hsuffix (.inr h)⟩, by omega, hid, hstored⟩
  rw [List.range_eq_range']
  rcases run_generateRounds data.count.toNat holds_fresh (uniqueEmails_zero hemails) with
    ⟨j, e, ss', -, hlt, hrest⟩ | ⟨hnone, hquiet⟩
  · exact .inl ⟨plan, j, e, ss', hbegins, by omega, hrest⟩
  · refine .inr ⟨fun plan' j hbegins' hlt => ?_, fun e ss' hrun hanswered => ?_⟩
    · rw [hbegins.only hbegins']
      exact hnone j (Nat.zero_le j) (by omega)
    · rw [hquiet e ss' hrun] at hanswered
      cases hanswered

end

end UserService

end PyBoard
