/-
  PyBoard.Results.Identities — the proxy identity of every user.

  The column `uuid` of a user is a UUID if `uuid.uuid4` draws it, as registrations, generated
  users and security resets do.  `create_user` draws hexadecimal digits without hyphens, so the
  identities stay valid in the runs in which no such request succeeds (`uuids_stay_valid`), and
  the first one that does spoils them (`created_user_has_no_uuid`).
-/
import PyBoard.Python.Utc
import PyBoard.Relational.Rows
import PyBoard.Services.User
import PyBoard.Specs.Auth

namespace PyBoard

open Relational UserService

variable {rt : Runtime} {fm : Formats}

/-! ## §1. Requests. -/

/-- The requests that create users or change their identity, with what they draw. -/
inductive IdentityOp
  | register (http : TurnstileService.Siteverify) (drawn : NewAccount) (uuid : BitVec 128)
      (data : AuthService.UserCreate) (client_ip : Option String)
  | createUser (drawn : NewAccount) (bytes : BitVec (8 * 18)) (data : AuthService.UserCreate)
  | adminGenerateUsers (draws : Nat → Generated) (data : AdminUserGenerate)
  | resetSecurity (user_id : Int) (uuid : BitVec 128) (token : BitVec (8 * 16))

/-- What a registration draws. -/
def UserService.NewAccount.registering (drawn : NewAccount) (uuid : BitVec 128) :
    AuthService.Drawn :=
  ⟨drawn.id, drawn.hash_password, tokenHex drawn.token, uuid4 uuid⟩

namespace IdentityOp

variable (rt fm)

def prog : IdentityOp → Db Unit
  | .register http drawn uuid data client_ip => do
      let _token ← AuthService.register rt fm http (drawn.registering uuid) data client_ip
  | .createUser drawn bytes data => do let _user ← UserService.createUser drawn bytes data
  | .adminGenerateUsers draws data => do
      let _generated ← UserService.adminGenerateUsers rt draws data
  | .resetSecurity user_id uuid token => do
      let _identity ← UserService.resetSecurity user_id (uuid4 uuid) (tokenHex token)

def isCreateUser : IdentityOp → Bool
  | .createUser .. => true
  | _ => false

end IdentityOp

/-- No `create_user` succeeds. -/
def noCreateUser : Cond IdentityOp Tbl :=
  { Cond.any with commit := fun l _ _ => !l.isCreateUser }

/-- The identity of the user is a UUID. -/
def User.Identified (u : User) : Prop := isUuid u.uuid = true

/-! ## §2. Each request stores UUIDs. -/

variable {C : Cond IdentityOp Tbl}

/-- The contract of the identities. -/
abbrev identities (C : Cond IdentityOp Tbl) : Contract IdentityOp Tbl :=
  Contract.rows C (t := Tbl.users) User.Identified

/-- A session that has stored UUIDs only. -/
abbrev Identifies : State Tbl → List (Write Tbl) → Prop :=
  Only (Puts (t := Tbl.users) User.Identified)

theorem identifies_stable : (identities C).Stable Identifies := rows_stable

theorem Identifies.other {s : State Tbl} {ws : List (Write Tbl)} (h : Identifies s ws)
    {w : Write Tbl} (hw : w.table ≠ .users) : Identifies s (ws ++ [w]) :=
  rows_append (.of_table hw) h

theorem identifies_cache (key : String) : CacheOpen (identities C) Identifies key where
  put row _ _ _ _ h := h.other (show Tbl.runtime_cache ≠ .users by decide)
  del _ _ _ h := h.other (show Tbl.runtime_cache ≠ .users by decide)

theorem identifies_user {user : User} (huuid : user.Identified) (s : State Tbl)
    (ws : List (Write Tbl)) (_ : (identities C).Inv s) (h : Identifies s ws) :
    Identifies s (ws ++ [.put Tbl.users user]) := rows_append (.put huuid) h

theorem steady_register_identifies (http : TurnstileService.Siteverify) (drawn : NewAccount)
    (uuid : BitVec 128) (data : AuthService.UserCreate) (client_ip : Option String) :
    (identities C).Steady Identifies
      (AuthService.register rt fm http (drawn.registering uuid) data client_ip) := by
  have hopen : SettingsOpen (identities C) Identifies :=
    ⟨identifies_stable, fun key _ => identifies_cache _⟩
  refine AuthService.steady_register hopen (identifies_cache _) (fun ip => identifies_cache _) fm
    http _ (identifies_cache _).del ?_ ?_ client_ip
  · intro invite s ws _ h
    exact h.other (show Tbl.invite_code ≠ .users by decide)
  · intro user huuid
    have hdrawn : user.Identified := by
      show isUuid user.uuid = true
      rw [huuid]
      exact isUuid_uuid4 uuid
    exact identifies_user hdrawn

/-- The induction is on the accounts that are still to be generated. -/
theorem steady_generateRounds (data : AdminUserGenerate) (count : Int) (plan : Option Plan)
    (draws : Nat → Generated) (rounds : List Nat) :
    (identities C).Steady Identifies (generateRounds rt data count plan draws rounds) := by
  induction rounds with
  | nil => exact .ret _
  | cons index rest ih =>
      refine .bind (steady_emailExists identifies_stable _) fun taken => .ite (.throw _) ?_
      have huuid : (data.user plan (generatedEmail rt data count index (draws index))
          (draws index)).Identified := isUuid_uuid4 (draws index).uuid
      refine .bind (.ite (steady_create identifies_stable (identifies_user huuid)) (.throw _))
        fun _ => ?_
      exact .bind ih fun _ => .ret _

theorem steady_adminGenerateUsers (draws : Nat → Generated) (data : AdminUserGenerate) :
    (identities C).Steady Identifies (adminGenerateUsers rt draws data) := by
  refine .ite (.throw _) (.ite (.throw _) (.bind ?_ fun plan =>
    steady_generateRounds data _ plan draws _))
  unfold generatedPlan
  split
  · exact .ret _
  · refine .bind (.get identifies_stable _ _) fun found => ?_
    cases found with
    | none => exact .throw _
    | some plan => exact .ret _

/-- The UPDATE of a reset leaves the identity of the row that it meets, or the one it draws. -/
theorem identified_merge {old new : User} (hnew : new.Identified) (cur : User)
    (hcur : cur.Identified) : (User.merge old new cur).Identified := by
  show isUuid (column old.uuid new.uuid cur.uuid) = true
  unfold column
  split
  · exact hcur
  · exact hnew

theorem steady_resetSecurity (user_id : Int) (uuid : BitVec 128) (token : String) :
    (identities C).Steady Identifies (UserService.resetSecurity user_id (uuid4 uuid) token) := by
  refine .bind (.get identifies_stable _ _) fun found => ?_
  cases found with
  | none => exact .throw _
  | some user =>
      refine .bind (.bind (steady_whenever (.bind ?_ fun found => ?_)) fun _ =>
        .bind (.get identifies_stable _ _) fun user => ?_) fun _ => .ret _
      · have hnew : ({ user with uuid := uuid4 uuid, token := token } : User).Identified :=
          isUuid_uuid4 uuid
        exact steady_update_rows (identified_merge hnew)
      · cases found
        · exact .throw _
        · exact .ret _
      · cases user with
        | none => exact .throw _
        | some user => exact .ret _

/-! ## §3. Runs. -/

/-- **The identities stay valid** in every run of these requests in which no `create_user`
    succeeds. -/
theorem uuids_stay_valid {db : Database} {now : Int} {c : Config IdentityOp Tbl PyExc Unit}
    (hdb : ∀ u ∈ (db .users).rows, User.Identified u)
    (hrun : Reaches (IdentityOp.prog rt fm) noCreateUser (.quiet ⟨db, now⟩) c) :
    ∀ u ∈ (c.state.db .users).rows, User.Identified u := by
  refine hrun.rows (P := User.Identified) (t := Tbl.users) (fun l _ hcommit => ?_) hdb
  cases l with
  | register http drawn uuid data client_ip =>
      exact .bind (steady_register_identifies http drawn uuid data client_ip) fun _ => .ret _
  | createUser drawn bytes data =>
      obtain ⟨s, ss, hadm⟩ := hcommit
      cases hadm
  | adminGenerateUsers draws data =>
      exact .bind (steady_adminGenerateUsers draws data) fun _ => .ret _
  | resetSecurity user_id uuid token =>
      exact .bind (steady_resetSecurity user_id uuid _) fun _ => .ret _

/-- What an account draws. -/
def drawnAccount : Generated where
  id := 1
  hash_password := id
  token := 0
  uuid := 0
  prefix_drawn := "a"

/-- An account is generated and its identity reset. -/
def generatingAndResetting : List (Event IdentityOp) :=
  .begin (.adminGenerateUsers (fun _ => drawnAccount) { email_suffix := "example.com" }) ::
    List.replicate 2 (.exec 0) ++ [.finish 0] ++
      .begin (.resetSecurity 1 1 1) :: List.replicate 3 (.exec 0) ++ [.finish 0]

/-- A generated account whose identity has been reset has a UUID. -/
theorem uuids_stay_valid_reset : ∃ c : Config IdentityOp Tbl PyExc Unit,
    Reaches (IdentityOp.prog Utc.bare plainFormats) noCreateUser (.quiet ⟨Database.empty, 0⟩) c ∧
      (c.state.db .users).rows.map User.uuid = ["00000000-0000-4000-8000-000000000001"] ∧
        ∀ u ∈ (c.state.db .users).rows, User.Identified u := by
  obtain ⟨c, -, hrun, -, huuids, -⟩ : ∃ c c' : Config IdentityOp Tbl PyExc Unit,
      Reaches (IdentityOp.prog Utc.bare plainFormats) noCreateUser
        (.quiet ⟨Database.empty, 0⟩) c ∧
      Reaches (IdentityOp.prog Utc.bare plainFormats) noCreateUser c c' ∧
      (c.state.db .users).rows.map User.uuid = ["00000000-0000-4000-8000-000000000001"] ∧
      (c'.state.db .users).rows.map User.uuid = ["00000000-0000-4000-8000-000000000001"] :=
    Reaches.exists_of_steps generatingAndResetting []
      (fun c : Config IdentityOp Tbl PyExc Unit => (c.state.db .users).rows.map User.uuid)
      (by decide +kernel)
  exact ⟨c, hrun, huuids, uuids_stay_valid (fun u hu => by cases hu) hrun⟩

/-- The identities of the users, and whether they are UUIDs. -/
def identitiesOf (c : Config IdentityOp Tbl PyExc Unit) : List String × Bool :=
  ((c.state.db .users).rows.map User.uuid,
    (c.state.db .users).rows.all fun u => isUuid (User.uuid u))

/-- Creating a user. -/
def creatingUser : List (Event IdentityOp) :=
  .begin (.createUser drawnAccount.toNewAccount 0
      { email := "a@example.com", password := "password" }) ::
    List.replicate 2 (.exec 0) ++ [.finish 0]

/-- **A created user has no UUID**, in the run of that one request. -/
theorem created_user_has_no_uuid : ∃ c : Config IdentityOp Tbl PyExc Unit,
    Reaches (IdentityOp.prog Utc.bare plainFormats) Cond.any (.quiet ⟨Database.empty, 0⟩) c ∧
      (c.state.db .users).rows.map User.uuid = ["000000000000000000000000000000000000"] ∧
        ¬∀ u ∈ (c.state.db .users).rows, User.Identified u := by
  obtain ⟨c, -, hrun, -, hspoilt, -⟩ : ∃ c c' : Config IdentityOp Tbl PyExc Unit,
      Reaches (IdentityOp.prog Utc.bare plainFormats) Cond.any (.quiet ⟨Database.empty, 0⟩) c ∧
      Reaches (IdentityOp.prog Utc.bare plainFormats) Cond.any c c' ∧
      identitiesOf c = (["000000000000000000000000000000000000"], false) ∧
      identitiesOf c' = (["000000000000000000000000000000000000"], false) :=
    Reaches.exists_of_steps creatingUser [] identitiesOf (by decide +kernel)
  obtain ⟨huuids, hall⟩ := Prod.mk.inj hspoilt
  refine ⟨c, hrun, huuids, fun h => ?_⟩
  rw [List.all_eq_true.mpr h] at hall
  cases hall

end PyBoard
