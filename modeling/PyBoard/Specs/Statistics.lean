/-
  PyBoard.Specs.Statistics — what one statistics job does to the rows of a day.

  A statistic is named by a node, or by a rate and a user.  `StatKey.Has` says that the
  rows of a statistic on a day are one tally, or none.  A job that knows the tallies
  that it adds to leaves the sums, and every other tally as it is, as long as what it
  sends and what it adds up fits into the columns (`StatJob.Fits`).
-/
import PyBoard.Relational.Apart
import PyBoard.Relational.Keyed
import PyBoard.Queues.Traffic
import PyBoard.Specs.Basic

namespace PyBoard

open Relational

/-! ## §1. Tallies. -/

/-- A statistic: of a node, or of a user at a rate. -/
inductive StatKey
  | server (server_id : Int) (server_type : String)
  | user (server_rate : PyFloat) (user_id : Int)
  deriving DecidableEq

/-- The columns of a row that its statistic and its day do not say. -/
structure Tally where
  id : Int
  u : Int
  d : Int
  record_type : String

def Tally.plus (x y : Tally) : Tally := { x with u := x.u + y.u, d := x.d + y.d }

def serverKey (r : StatServer) : Int × Int × String := (r.record_at, r.server_id, r.server_type)

def userKey (r : StatUser) : Int × PyFloat × Int := (r.record_at, r.server_rate, r.user_id)

def Tally.serverRow (day server_id : Int) (server_type : String) (x : Tally) : StatServer :=
  { id := x.id, server_id := server_id, server_type := server_type, u := x.u, d := x.d,
    record_type := x.record_type, record_at := day }

def Tally.userRow (day : Int) (server_rate : PyFloat) (user_id : Int) (x : Tally) : StatUser :=
  { id := x.id, user_id := user_id, server_rate := server_rate, u := x.u, d := x.d,
    record_type := x.record_type, record_at := day }

theorem Tally.serverRow_injective {day server_id : Int} {server_type : String} {x y : Tally}
    (h : x.serverRow day server_id server_type = y.serverRow day server_id server_type) :
    x = y := by
  cases x
  cases y
  simpa [serverRow] using h

theorem Tally.userRow_injective {day user_id : Int} {server_rate : PyFloat} {x y : Tally}
    (h : x.userRow day server_rate user_id = y.userRow day server_rate user_id) : x = y := by
  cases x
  cases y
  simpa [userRow] using h

/-- The queries of the two jobs for one statistic. -/
def serverQuery (server_id : Int) (server_type : String) (day : Int) (r : StatServer) : Bool :=
  r.record_at = day && r.server_id = server_id && r.server_type = server_type

def userQuery (server_rate : PyFloat) (user_id : Int) (day : Int) (r : StatUser) : Bool :=
  r.record_at = day && r.server_rate = server_rate && r.user_id = user_id

theorem serverQuery_iff (server_id : Int) (server_type : String) (day : Int) (r : StatServer) :
    serverQuery server_id server_type day r = true ↔
      serverKey r = (day, server_id, server_type) := by
  simp [serverQuery, serverKey, and_assoc]

theorem userQuery_iff (server_rate : PyFloat) (user_id : Int) (day : Int) (r : StatUser) :
    userQuery server_rate user_id day r = true ↔ userKey r = (day, server_rate, user_id) := by
  simp [userQuery, userKey, and_assoc]

/-- The rows of a statistic on a day are `v`. -/
def StatKey.Has (day : Int) (v : Option Tally) (db : Database) : StatKey → Prop
  | .server server_id server_type =>
      OneRow (t := Tbl.stat_server) serverKey (day, server_id, server_type)
        (v.map (Tally.serverRow day server_id server_type)) db
  | .user server_rate user_id =>
      OneRow (t := Tbl.stat_user) userKey (day, server_rate, user_id)
        (v.map (Tally.userRow day server_rate user_id)) db

/-- What a job adds to a statistic: the row if it is new. -/
def StatJob.adds (K : StatKey) : StatJob → Option Tally
  | .stat_user traffic rate record_type ids =>
      match K with
      | .user server_rate user_id =>
          if server_rate = rate then
            (traffic.items.find? fun item => item.1 = user_id).map fun item =>
              { id := ids user_id, u := item.2.1, d := item.2.2, record_type := record_type }
          else none
      | .server .. => none
  | .stat_server server_id protocol traffic record_type id =>
      if K = .server server_id protocol then
        some { id := id, u := (traffic.items.map fun item => item.2.1).sum,
               d := (traffic.items.map fun item => item.2.2).sum, record_type := record_type }
      else none

/-- A statistic of a day after a job that counts for the day `answer`. -/
def StatJob.after (job : StatJob) (answer : Option Int) (K : StatKey) (day : Int)
    (v : Option Tally) : Option Tally :=
  if answer = some day then
    match job.adds K with
    | none => v
    | some y =>
        match v with
        | none => some y
        | some x => some (x.plus y)
  else v

def Tally.columns (x : Tally) : Int × Int := (x.u, x.d)

/-- The columns of a tally; of none, zero. -/
def columnsOf (v : Option Tally) : Int × Int := (v.map Tally.columns).getD 0

/-- One statement can name the users of a job, and its texts fit into their columns. -/
def StatJob.Named : StatJob → Prop
  | .stat_user traffic _ record_type _ =>
      (∀ item ∈ traffic.items, integerFits item.1 = true) ∧
        traffic.items.length + 2 ≤ QUERY_ARGUMENTS_MAX ∧ record_type.length ≤ 2
  | .stat_server server_id protocol _ record_type _ =>
      integerFits server_id = true ∧ protocol.length ≤ 11 ∧ record_type.length ≤ 1

/-- **A job fits into the columns**, on top of what is stored for its statistics. -/
structure StatJob.Fits (job : StatJob) (stored : StatKey → Int → Int × Int) : Prop where
  named : job.Named
  sums : ∀ K y, job.adds K = some y → ∀ day,
    fitsBigint ((stored K day).1 + y.u) = true ∧ fitsBigint ((stored K day).2 + y.d) = true

/-- An INSERT draws an identifier that no row has, and the days are INTEGER. -/
def drawsFresh : Cond StatJob Tbl :=
  { Cond.any with
    stmt := fun
      | .insert t r, s, ss => !(s.view ss).refuses t r
      | .clock, s, _ => integerFits (s.now - s.now % 86400)
      | _, _, _ => true }

section

variable {job : StatJob} {K : StatKey} {day : Int} {v w : Option Tally} {db : Database}
  {answer : Option Int}

theorem StatJob.after_of_ne (h : answer ≠ some day) : job.after answer K day w = w := if_neg h

theorem StatJob.after_of_adds_none (h : job.adds K = none) : job.after answer K day w = w := by
  unfold after
  rw [h]
  split <;> rfl

end

/-! ## §2. Stored rows. -/

section

variable {s : State Tbl} {ss : Session Tbl} {K : StatKey} {day : Int} {w w' : Option Tally}

/-- What the stored rows have to be: the new version of a statistic, or nothing of it. -/
def Stored {ρ κ : Type} (kf : ρ → κ) (k : κ) (row : Tally → ρ) (rows : List ρ)
    (w w' : Option Tally) : Prop :=
  (∃ y, w' = some y ∧ row y ∈ rows ∧ (∀ r ∈ rows, kf r = k → r = row y) ∧
    ∀ x, w = some x → x.id = y.id) ∨
  w' = w ∧ ∀ r ∈ rows, kf r ≠ k

theorem OneRow.of_stored {t : Tbl} {κ : Type} {kf : t.Row → κ} {k : κ} {row : Tally → t.Row}
    {rows : List t.Row} (h : Stores kf rows s ss) (hk : ∀ y, kf (row y) = k)
    (hid : ∀ x y : Tally, x.id = y.id → t.key (row x) = t.key (row y))
    (hw : OneRow kf k (w.map row) s.db) (hrows : Stored kf k row rows w w') :
    OneRow kf k (w'.map row) (s.db.apply ss.ws) := by
  refine OneRow.stored_rows h hw ?_
  rcases hrows with ⟨y, rfl, hmem, honly, hxy⟩ | ⟨rfl, hother⟩
  · refine Or.inl ⟨row y, hmem, hk y, rfl, honly, fun old hold => ?_⟩
    obtain ⟨x, hx, rfl⟩ := Option.map_eq_some_iff.mp hold
    exact hid x y (hxy x hx)
  · exact Or.inr ⟨rfl, hother⟩

/-- A commit that stores rows of the nodes. -/
theorem has_of_serverRows {rows : List StatServer}
    (h : Stores (t := Tbl.stat_server) serverKey rows s ss) (hw : K.Has day w s.db)
    (huser : ∀ rate user_id, K = .user rate user_id → w' = w)
    (hserver : ∀ server_id server_type, K = .server server_id server_type →
      Stored serverKey (day, server_id, server_type)
        (Tally.serverRow day server_id server_type) rows w w') :
    K.Has day w' (s.db.apply ss.ws) := by
  cases K with
  | server server_id server_type =>
    exact OneRow.of_stored h (fun _ => rfl) (fun _ _ hid => hid) hw
      (hserver server_id server_type rfl)
  | user rate user_id =>
    rw [huser rate user_id rfl]
    exact OneRow.congr hw (h.other (by decide) s.db)

/-- A commit that stores rows of the users. -/
theorem has_of_userRows {rows : List StatUser}
    (h : Stores (t := Tbl.stat_user) userKey rows s ss) (hw : K.Has day w s.db)
    (hserver : ∀ server_id server_type, K = .server server_id server_type → w' = w)
    (huser : ∀ rate user_id, K = .user rate user_id →
      Stored userKey (day, rate, user_id) (Tally.userRow day rate user_id) rows w w') :
    K.Has day w' (s.db.apply ss.ws) := by
  cases K with
  | server server_id server_type =>
    rw [hserver server_id server_type rfl]
    exact OneRow.congr hw (h.other (by decide) s.db)
  | user rate user_id =>
    exact OneRow.of_stored h (fun _ => rfl) (fun _ _ hid => hid) hw (huser rate user_id rfl)

end

/-! ## §3. A job on its own statistics. -/

section

variable {L : Type} {C : Contract L Tbl}

section

variable {s : State Tbl} {ss : Session Tbl} {t : Tbl} {κ : Type} {kf : t.Row → κ}
  {rows : List t.Row}
  {Q : Except PyExc Unit → State Tbl → Session Tbl → Prop} {e : PyExc} {b : Bool}

/-- An UPDATE that is made because the new sums fit. -/
theorem wp_save_stored (h : Stores kf rows s ss) (hb : b = true) {old new : t.Row}
    (hid : t.key old = t.key new) (hk : kf old = kf new)
    (hold : ∀ s, C.Inv s → (s.db t).get? (t.key old) = some old)
    (hne : ∀ r ∈ rows, t.key r ≠ t.key old)
    (hq : ∀ s' ss', C.Inv s' → Stores kf (rows ++ [new]) s' ss' → Q (.ok ()) s' ss') :
    wp C (if b then save t old new else Prog.throw e) Q s ss := by
  rw [if_pos hb]
  exact (wp_bind _ _ _ _ _).mpr (h.wp_update hid hk hold hne hq)

/-- An INSERT that is made because the row fits. -/
theorem wp_create_stored (h : Stores kf rows s ss) (hb : b = true) {new : t.Row}
    (hfresh : ∀ s', C.stmt (.insert t new) s' ss = true → (s'.view ss).refuses t new = false)
    (hq : ∀ s' ss', C.Inv s' → Stores kf (rows ++ [new]) s' ss' → Q (.ok ()) s' ss') :
    wp C (if b then create t new else Prog.throw e) Q s ss := by
  rw [if_pos hb]
  exact (wp_bind _ _ _ _ _).mpr (h.wp_insert hfresh hq)

end

/-- How a job that fits ends: it counts for a day, its statistics get what it adds, and the
    others stay.  The tallies of its own statistics are `v`. -/
def StatPost (job : StatJob) (v : StatKey → Int → Option Tally) (r : Except PyExc (Option Int))
    (s : State Tbl) (ss : Session Tbl) : Prop :=
  ∃ answer, r = .ok answer ∧ ∀ (K : StatKey) day w,
    ((job.adds K).isSome = true → w = v K day) → K.Has day w s.db →
      K.Has day (job.after answer K day w) (s.db.apply ss.ws)

/-- A job without traffic writes nothing. -/
theorem statPost_none (job : StatJob) (v : StatKey → Int → Option Tally) (s : State Tbl) :
    StatPost job v (.ok none) s Session.fresh := by
  refine ⟨none, rfl, fun K day w _ hw => ?_⟩
  rw [StatJob.after_of_ne (by simp)]
  exact hw

/-- The tally of a statistic to which `y` is added. -/
def Tally.add (v : Option Tally) (y : Tally) : Tally :=
  match v with
  | none => y
  | some x => x.plus y

/-- What a job that fits makes of a tally fits. -/
theorem StatJob.Fits.add {job : StatJob} {v : StatKey → Int → Option Tally} {K : StatKey}
    {y : Tally}
    (h : job.Fits fun K day => columnsOf (v K day)) (hadds : job.adds K = some y) (day : Int) :
    fitsBigint (Tally.add (v K day) y).u = true ∧ fitsBigint (Tally.add (v K day) y).d = true := by
  have hsums := h.sums K y hadds day
  cases hv : v K day with
  | none =>
    rw [hv] at hsums
    have hzero : columnsOf none = (0, 0) := rfl
    rwa [hzero, zero_add, zero_add] at hsums
  | some x =>
    rw [hv] at hsums
    exact hsums

theorem StatJob.after_of_adds {job : StatJob} {K : StatKey} {y : Tally} (h : job.adds K = some y)
    (day : Int) (w : Option Tally) : job.after (some day) K day w = some (Tally.add w y) := by
  unfold after
  rw [if_pos rfl, h]
  cases w <;> rfl

section

variable (server_id : Int) (protocol : String) (traffic : TrafficReport) (record_type : String)
  (id : Int) {v : StatKey → Int → Option Tally}

/-- What `stat_server` adds. -/
def serverTally : Tally :=
  { id := id, u := (traffic.items.map fun item => item.2.1).sum,
    d := (traffic.items.map fun item => item.2.2).sum, record_type := record_type }

theorem adds_stat_server : (StatJob.stat_server server_id protocol traffic record_type id).adds
    (.server server_id protocol) = some (serverTally traffic record_type id) := if_pos rfl

theorem adds_stat_server_some {K : StatKey}
    (h : (StatJob.stat_server server_id protocol traffic record_type id).adds K ≠ none) :
    K = .server server_id protocol := by
  by_contra hne
  exact h (if_neg hne)

/-- What the stored rows of `stat_server` have to be. -/
theorem statPost_server {s : State Tbl} {ss : Session Tbl} {rows : List StatServer} {day : Int}
    (h : Stores (t := Tbl.stat_server) serverKey rows s ss)
    (hrows : ∀ r ∈ rows, serverKey r = (day, server_id, protocol))
    (hstored : Stored serverKey (day, server_id, protocol)
      (Tally.serverRow day server_id protocol) rows (v (.server server_id protocol) day)
      (some (Tally.add (v (.server server_id protocol) day)
        (serverTally traffic record_type id)))) :
    StatPost (.stat_server server_id protocol traffic record_type id) v (.ok (some day)) s ss := by
  refine ⟨some day, rfl, fun K day' w hwv hw => ?_⟩
  have hadds := adds_stat_server server_id protocol traffic record_type id
  refine has_of_serverRows h hw (fun rate user_id hK => ?_) fun server_id' server_type' hK => ?_
  · subst hK
    exact StatJob.after_of_adds_none rfl
  · subst hK
    by_cases hkey : (day', server_id', server_type') = (day, server_id, protocol)
    · cases hkey
      rw [StatJob.after_of_adds hadds, hwv (by rw [hadds]; rfl)]
      exact hstored
    · refine Or.inr ⟨?_, fun r hr heq => hkey (heq.symm.trans (hrows r hr))⟩
      by_cases hday : day = day'
      · refine StatJob.after_of_adds_none (if_neg fun heq => hkey ?_)
        cases heq
        rw [hday]
      · exact StatJob.after_of_ne fun heq => hday (Option.some.inj heq)

/-- **`stat_server`** adds to the tally of its node. -/
theorem wp_statServer (hstate : ∀ s, C.Inv s → ∀ day, (StatKey.server server_id protocol).Has day
      (v (.server server_id protocol) day) s.db)
    (hfresh : ∀ (s : State Tbl) (ss : Session Tbl) (r : StatServer),
      C.stmt (.insert Tbl.stat_server r) s ss = true → (s.view ss).refuses .stat_server r = false)
    (hclock : ∀ (s : State Tbl) (ss : Session Tbl), C.stmt .clock s ss = true →
      integerFits (s.now - s.now % 86400) = true)
    (hfits : (StatJob.stat_server server_id protocol traffic record_type id).Fits
      fun K day => columnsOf (v K day)) {s : State Tbl} :
    wp C (Queues.statServer server_id protocol traffic record_type id)
      (Ends C (StatPost (.stat_server server_id protocol traffic record_type id) v)) s
      Session.fresh := by
  obtain ⟨hid, hprotocol, htype⟩ := hfits.named
  refine wp_ite (fun _ s' _ _ => statPost_none _ _ s') fun _ => ?_
  refine (wp_bind _ _ _ _ _).mpr ((wp_bind _ _ _ _ _).mpr ((wp_bind _ _ _ _ _).mpr ?_))
  refine wp_clock_admitted fun s₀ _ hstmt => ?_
  let day := s₀.now - s₀.now % 86400
  have hday : integerFits day = true := hclock s₀ _ hstmt
  have hadd := hfits.add (adds_stat_server server_id protocol traffic record_type id) day
  have hbind : bindIntegers [day, server_id] 1 = .ok () := by
    refine bindIntegers_eq_ok.mpr ⟨fun n hn => ?_, (by decide : 2 + 1 ≤ QUERY_ARGUMENTS_MAX)⟩
    rcases List.mem_cons.mp hn with rfl | hn
    · exact hday
    · exact List.mem_singleton.mp hn ▸ hid
  refine (wp_bind _ _ _ _ _).mpr (wp_liftExcept_ok hbind ?_)
  refine (wp_bind _ _ _ _ _).mpr (wp_select fun s₁ he₁ => ?_)
  have hrows := OneRow.filter (hstate s₁ he₁.inv day) (serverQuery_iff server_id protocol day)
  have hnil : Stores (t := Tbl.stat_server) serverKey [] s₁ Session.fresh := Stores.nil _ s₁
  refine (wp_bind _ _ _ _ _).mpr ?_
  show wp C
    (scalarOneOrNone ((s₁.db .stat_server).rows.filter (serverQuery server_id protocol day)))
    _ s₁ _
  rw [hrows]
  cases hv : v (.server server_id protocol) day with
  | none =>
    rw [hv] at hadd
    have hrow : (Tally.serverRow day server_id protocol
        (serverTally traffic record_type id)).fits = true := by
      simp only [StatServer.fits, Bool.and_eq_true, decide_eq_true_eq]
      exact ⟨⟨⟨⟨⟨hid, hprotocol⟩, hadd.1⟩, hadd.2⟩, htype⟩, hday⟩
    refine (wp_bind _ _ _ _ _).mpr (wp_create_stored hnil hrow (fun s' => hfresh s' _ _)
      fun s₂ ss₂ _ hst s₃ hr₃ _ => ?_)
    refine statPost_server _ _ _ _ _ (hst.rely hr₃) (fun r hr => ?_) (Or.inl ⟨_, rfl, ?_, ?_, ?_⟩)
    · rw [List.mem_singleton.mp hr]
      rfl
    · rw [hv]
      exact List.mem_singleton_self _
    · intro r hr _
      rw [hv]
      exact List.mem_singleton.mp hr
    · intro x hx
      rw [hv] at hx
      cases hx
  | some x =>
    let item := x.serverRow day server_id protocol
    let new := item.plus (traffic.items.map fun item => item.2.1).sum
      (traffic.items.map fun item => item.2.2).sum
    have hnew : new = (Tally.add (v (.server server_id protocol) day)
        (serverTally traffic record_type id)).serverRow day server_id protocol := by
      rw [hv]
      rfl
    have hkey : serverKey new = (day, server_id, protocol) := rfl
    refine (wp_bind _ _ _ _ _).mpr (wp_ite (fun hne => ?_) fun heq => ?_)
    · rw [hv] at hadd
      have hsums : (fitsBigint new.u && fitsBigint new.d) = true := by
        rw [Bool.and_eq_true]
        exact hadd
      refine wp_save_stored hnil hsums rfl rfl (fun s hi => (hstate s hi day).get (congrArg _ hv))
        (fun r hr => by cases hr) ?_
      intro s₂ ss₂ _ hst s₃ hr₃ _
      refine statPost_server _ _ _ _ _ (hst.rely hr₃) (fun r hr => ?_)
        (Or.inl ⟨_, rfl, ?_, fun r hr _ => ?_, fun x' hx' => ?_⟩)
      · rw [List.mem_singleton.mp hr]
        exact hkey
      · rw [← hnew]
        exact List.mem_singleton_self _
      · rw [← hnew]
        exact List.mem_singleton.mp hr
      · rw [hv] at hx' ⊢
        cases hx'
        rfl
    · rw [not_not] at heq
      refine fun s₂ hr₂ _ => statPost_server _ _ _ _ _ (hnil.rely hr₂) (fun r hr => by cases hr)
        (Or.inr ⟨?_, fun r hr => by cases hr⟩)
      rw [hv] at hnew ⊢
      exact congrArg some (Tally.serverRow_injective (heq.trans hnew)).symm

end

section

variable (traffic : TrafficReport) (rate : PyFloat) (record_type : String) (ids : Int → Int)
  {v : StatKey → Int → Option Tally}

/-- What `stat_user` adds for one user. -/
def userTally (item : Int × Int × Int) : Tally :=
  { id := ids item.1, u := item.2.1, d := item.2.2, record_type := record_type }

/-- A report has one entry for a user. -/
theorem TrafficReport.item_unique {item item' : Int × Int × Int} (h : item ∈ traffic.items)
    (h' : item' ∈ traffic.items) (heq : item.1 = item'.1) : item = item' :=
  List.inj_on_of_nodup_map traffic.nodup h h' heq

theorem TrafficReport.find_eq {item : Int × Int × Int} (h : item ∈ traffic.items) :
    (traffic.items.find? fun item' => item'.1 = item.1) = some item := by
  cases hfind : traffic.items.find? fun item' => item'.1 = item.1 with
  | none =>
    have := List.find?_eq_none.mp hfind item h
    simp at this
  | some item' =>
    have heq := List.find?_some hfind
    rw [decide_eq_true_eq] at heq
    rw [traffic.item_unique (List.mem_of_find?_eq_some hfind) h heq]

theorem adds_stat_user {item : Int × Int × Int} (h : item ∈ traffic.items) :
    (StatJob.stat_user traffic rate record_type ids).adds (.user rate item.1)
      = some (userTally record_type ids item) := by
  show (if rate = rate then _ else _) = _
  rw [if_pos rfl, traffic.find_eq h]
  rfl

/-- A statistic that `stat_user` adds to is that of an entry. -/
theorem adds_stat_user_some {server_rate : PyFloat} {user_id : Int}
    (h : (StatJob.stat_user traffic rate record_type ids).adds (.user server_rate user_id) ≠ none) :
    server_rate = rate ∧ ∃ item ∈ traffic.items, item.1 = user_id := by
  have hif : (if server_rate = rate then
      (traffic.items.find? fun item => item.1 = user_id).map fun item =>
        ({ id := ids user_id, u := item.2.1, d := item.2.2, record_type := record_type } : Tally)
      else none) ≠ none := h
  split at hif
  · next hrate =>
    refine ⟨hrate, ?_⟩
    cases hfind : traffic.items.find? fun item => item.1 = user_id with
    | none =>
      rw [hfind] at hif
      exact absurd rfl hif
    | some item =>
      exact ⟨item, List.mem_of_find?_eq_some hfind, by simpa using List.find?_some hfind⟩
  · exact absurd rfl hif

variable (v) (day : Int)

/-- The row of a user after `stat_user`. -/
def newUserRow (item : Int × Int × Int) : StatUser :=
  (Tally.add (v (.user rate item.1) day) (userTally record_type ids item)).userRow day rate item.1

/-- The rows that `stat_user` stores: the new ones, apart from those that do not change. -/
structure UserRows (rows : List StatUser) : Prop where
  of_mem : ∀ r ∈ rows, ∃ item ∈ traffic.items, r = newUserRow rate record_type ids v day item
  mem : ∀ item ∈ traffic.items, newUserRow rate record_type ids v day item ∈ rows ∨
    v (.user rate item.1) day
      = some (Tally.add (v (.user rate item.1) day) (userTally record_type ids item))

variable {v} {day}

theorem statPost_user {s : State Tbl} {ss : Session Tbl} {rows : List StatUser}
    (h : Stores (t := Tbl.stat_user) userKey rows s ss)
    (hrows : UserRows traffic rate record_type ids v day rows) :
    StatPost (.stat_user traffic rate record_type ids) v (.ok (some day)) s ss := by
  refine ⟨some day, rfl, fun K day' w hwv hw => ?_⟩
  refine has_of_userRows h hw (fun server_id server_type hK => ?_) fun rate' user_id hK => ?_
  · subst hK
    exact StatJob.after_of_adds_none rfl
  · subst hK
    by_cases hkey : day = day' ∧ rate' = rate ∧ ∃ item ∈ traffic.items, item.1 = user_id
    · obtain ⟨rfl, rfl, item, hitem, rfl⟩ := hkey
      have hadds := adds_stat_user traffic rate' record_type ids hitem
      rw [StatJob.after_of_adds hadds, hwv (by rw [hadds]; rfl)]
      have honly : ∀ r ∈ rows, userKey r = (day, rate', item.1) →
          r = newUserRow rate' record_type ids v day item := by
        intro r hr heq
        obtain ⟨item', hitem', rfl⟩ := hrows.of_mem r hr
        have hid : item'.1 = item.1 := congrArg (fun k : Int × PyFloat × Int => k.2.2) heq
        rw [traffic.item_unique hitem' hitem hid]
      by_cases hmem : newUserRow rate' record_type ids v day item ∈ rows
      · refine Or.inl ⟨_, rfl, hmem, honly, fun x hx => ?_⟩
        rw [hx]
        rfl
      · refine Or.inr ⟨((hrows.mem item hitem).resolve_left hmem).symm, fun r hr heq => hmem ?_⟩
        rw [← honly r hr heq]
        exact hr
    · refine Or.inr ⟨?_, fun r hr heq => hkey ?_⟩
      · by_cases hday : day = day'
        · refine StatJob.after_of_adds_none (not_not.mp fun hne => hkey ?_)
          exact ⟨hday, adds_stat_user_some traffic rate record_type ids hne⟩
        · exact StatJob.after_of_ne fun heq => hday (Option.some.inj heq)
      · obtain ⟨item, hitem, rfl⟩ := hrows.of_mem r hr
        cases heq
        exact ⟨rfl, rfl, item, hitem, rfl⟩

/-! The two loops of the flush. -/

/-- The rows that a list of changes stores. -/
def changed (updates : List (StatUser × StatUser)) : List StatUser :=
  (updates.filter fun p => p.1 ≠ p.2).map Prod.snd

theorem mem_changed {updates : List (StatUser × StatUser)} {r : StatUser}
    (h : r ∈ changed updates) :
    ∃ old, (old, r) ∈ updates := by
  obtain ⟨⟨old, new⟩, hp, rfl⟩ := List.mem_map.mp h
  exact ⟨old, List.mem_of_mem_filter hp⟩

/-- **The updates**: rows that nobody else changes, one for a user. -/
theorem wp_statUser_updates {updates : List (StatUser × StatUser)} {s : State Tbl}
    (hfits : ∀ p ∈ updates, (fitsBigint p.2.u && fitsBigint p.2.d) = true)
    (hnodup : (updates.map fun p => p.1.user_id).Nodup)
    (hold : ∀ p ∈ updates, p.1.id = p.2.id ∧ userKey p.1 = userKey p.2 ∧
      ∀ s, C.Inv s → (s.db .stat_user).get? p.1.id = some p.1) (hi : C.Inv s)
    {Q : Except PyExc Unit → State Tbl → Session Tbl → Prop}
    (hq : ∀ s' ss', C.Inv s' → Stores (t := Tbl.stat_user) userKey (changed updates) s' ss' →
      Q (.ok ()) s' ss') :
    wp C (Prog.forEach updates fun (old, new) =>
      whenever (old ≠ new) (Queues.updateStatUser old new)) Q s Session.fresh := by
  refine wp_forEach (fun xs s ss => C.Inv s ∧ ∃ done, done ++ xs = updates ∧
    Stores (t := Tbl.stat_user) userKey (changed done) s ss) ?_ ?_
    ⟨hi, [], rfl, Stores.nil _ s⟩
  · rintro ⟨old, new⟩ xs s ss ⟨hi, done, hdone, hst⟩
    have hmem : (old, new) ∈ updates := by
      rw [← hdone]
      exact List.mem_append_right _ List.mem_cons_self
    obtain ⟨hid, hkey, hget⟩ := hold _ hmem
    have hnext : (done ++ [(old, new)]) ++ xs = updates := by
      rw [← hdone, List.append_assoc]
      rfl
    refine wp_ite (fun hne => ?_) fun heq => ?_
    · refine wp_save_stored hst (hfits _ hmem) hid hkey hget (fun r hr hrid => ?_) ?_
      · -- another row of the list is that of another user
        obtain ⟨old', hmem'⟩ := mem_changed hr
        have hin : (old', r) ∈ updates := by
          rw [← hdone]
          exact List.mem_append_left _ hmem'
        obtain ⟨hid', -, hget'⟩ := hold _ hin
        have hsame : some old' = some old := by
          rw [← hget' s hi, ← hget s hi]
          exact congrArg _ (hid'.trans hrid)
        cases hsame
        rw [← hdone, List.map_append] at hnodup
        exact (List.nodup_append.mp hnodup).2.2 _ (List.mem_map_of_mem hmem') _
          (List.mem_map_of_mem List.mem_cons_self) rfl
      · intro s' ss' hi' hst'
        refine ⟨hi', done ++ [(old, new)], hnext, ?_⟩
        have : changed (done ++ [(old, new)]) = changed done ++ [new] := by
          simp [changed, List.filter_append, hne]
        rw [this]
        exact hst'
    · refine ⟨hi, done ++ [(old, new)], hnext, ?_⟩
      have : changed (done ++ [(old, new)]) = changed done := by
        simp [changed, List.filter_append, not_not.mp heq]
      rw [this]
      exact hst
  · rintro s ss ⟨hi, done, hdone, hst⟩
    rw [List.append_nil] at hdone
    rw [← hdone] at hq
    exact hq s ss hi hst

/-- **The inserts**: rows with new primary keys. -/
theorem wp_statUser_inserts {inserts rows : List StatUser} {s : State Tbl} {ss : Session Tbl}
    (hfresh : ∀ (s : State Tbl) (ss : Session Tbl) (r : StatUser),
      C.stmt (.insert Tbl.stat_user r) s ss = true → (s.view ss).refuses .stat_user r = false)
    (hfits : ∀ r ∈ inserts, StatUser.fits r = true) (hi : C.Inv s)
    (hst : Stores (t := Tbl.stat_user) userKey rows s ss)
    {Q : Except PyExc Unit → State Tbl → Session Tbl → Prop}
    (hq : ∀ s' ss', C.Inv s' → Stores (t := Tbl.stat_user) userKey (rows ++ inserts) s' ss' →
      Q (.ok ()) s' ss') :
    wp C (Prog.forEach inserts Queues.insertStatUser) Q s ss := by
  refine wp_forEach (fun xs s ss => C.Inv s ∧ ∃ done, done ++ xs = inserts ∧
    Stores (t := Tbl.stat_user) userKey (rows ++ done) s ss) ?_ ?_
    ⟨hi, [], rfl, by rwa [List.append_nil]⟩
  · rintro row xs s ss ⟨hi, done, hdone, hst⟩
    have hmem : row ∈ inserts := by
      rw [← hdone]
      exact List.mem_append_right _ List.mem_cons_self
    refine wp_create_stored hst (hfits row hmem) (fun s' => hfresh s' _ _) ?_
    intro s' ss' hi' hst'
    refine ⟨hi', done ++ [row], ?_, ?_⟩
    · rw [← hdone, List.append_assoc]
      rfl
    · rw [← List.append_assoc]
      exact hst'
  · rintro s ss ⟨hi, done, hdone, hst⟩
    rw [List.append_nil] at hdone
    rw [← hdone] at hq
    exact hq s ss hi hst

/-! What the two lists are. -/

section

variable {existing : Int → Option StatUser}

theorem statUserUpdates_user_ids
    (hex : ∀ user_id r, existing user_id = some r → r.user_id = user_id) :
    (Queues.statUserUpdates traffic existing).map (fun p => p.1.user_id)
      = (traffic.items.map Prod.fst).filter fun user_id => (existing user_id).isSome := by
  unfold Queues.statUserUpdates
  induction traffic.items with
  | nil => rfl
  | cons item items ih =>
    rw [List.map_cons, List.filterMap_cons, List.filter_cons]
    cases h : existing item.1 with
    | none => simpa [h] using ih
    | some r =>
      have hid := hex item.1 r h
      simpa [h, StatUser.plus, hid] using ih

variable (hex : ∀ item ∈ traffic.items,
  existing item.1 = (v (.user rate item.1) day).map (Tally.userRow day rate item.1))

include hex

theorem mem_statUserUpdates (p : StatUser × StatUser) :
    p ∈ Queues.statUserUpdates traffic existing ↔ ∃ item ∈ traffic.items, ∃ x,
      v (.user rate item.1) day = some x ∧ p.1 = x.userRow day rate item.1 ∧
        p.2 = newUserRow rate record_type ids v day item := by
  unfold Queues.statUserUpdates
  rw [List.mem_filterMap]
  constructor
  · rintro ⟨item, hitem, hp⟩
    obtain ⟨old, hold, rfl⟩ := Option.map_eq_some_iff.mp hp
    rw [hex item hitem] at hold
    obtain ⟨x, hx, rfl⟩ := Option.map_eq_some_iff.mp hold
    refine ⟨item, hitem, x, hx, rfl, ?_⟩
    unfold newUserRow
    rw [hx]
    rfl
  · rintro ⟨item, hitem, x, hx, hold, hnew⟩
    refine ⟨item, hitem, Option.map_eq_some_iff.mpr ⟨x.userRow day rate item.1, ?_, ?_⟩⟩
    · rw [hex item hitem, hx]
      rfl
    · unfold newUserRow at hnew
      rw [hx] at hnew
      exact Prod.ext hold.symm hnew.symm

theorem mem_statUserInserts (r : StatUser) :
    r ∈ Queues.statUserInserts traffic existing (fun user_id upload download =>
        { id := ids user_id, user_id := user_id, server_rate := rate, u := upload, d := download,
          record_type := record_type, record_at := day }) ↔
      ∃ item ∈ traffic.items, v (.user rate item.1) day = none ∧
        r = newUserRow rate record_type ids v day item := by
  unfold Queues.statUserInserts
  rw [List.mem_filterMap]
  refine exists_congr fun item => and_congr_right fun hitem => ?_
  unfold newUserRow
  dsimp only
  rw [hex item hitem]
  cases v (.user rate item.1) day with
  | none =>
    rw [Option.map_none, Option.some.injEq]
    exact ⟨fun h => ⟨rfl, h.symm⟩, fun h => h.2.symm⟩
  | some x => exact ⟨fun h => (by cases h), fun h => (by cases h.1)⟩

end

/-- **`stat_user`** adds to the tallies of the users of its report. -/
theorem wp_statUser (hstate : ∀ s, C.Inv s → ∀ item ∈ traffic.items, ∀ day,
      (StatKey.user rate item.1).Has day (v (.user rate item.1) day) s.db)
    (hfresh : ∀ (s : State Tbl) (ss : Session Tbl) (r : StatUser),
      C.stmt (.insert Tbl.stat_user r) s ss = true → (s.view ss).refuses .stat_user r = false)
    (hclock : ∀ (s : State Tbl) (ss : Session Tbl), C.stmt .clock s ss = true →
      integerFits (s.now - s.now % 86400) = true)
    (hfits : (StatJob.stat_user traffic rate record_type ids).Fits
      fun K day => columnsOf (v K day)) {s : State Tbl} :
    wp C (Queues.statUser traffic rate record_type ids)
      (Ends C (StatPost (.stat_user traffic rate record_type ids) v)) s Session.fresh := by
  obtain ⟨husers, hfew, htype⟩ := hfits.named
  refine wp_ite (fun _ s' _ _ => statPost_none _ _ s') fun _ => ?_
  refine (wp_bind _ _ _ _ _).mpr ((wp_bind _ _ _ _ _).mpr ((wp_bind _ _ _ _ _).mpr ?_))
  refine wp_clock_admitted fun s₀ _ hstmt => ?_
  let day := s₀.now - s₀.now % 86400
  have hday : integerFits day = true := hclock s₀ _ hstmt
  have hbind : bindIntegers (day :: traffic.items.map Prod.fst) 1 = .ok () := by
    refine bindIntegers_eq_ok.mpr ⟨fun n hn => ?_, ?_⟩
    · rcases List.mem_cons.mp hn with rfl | hn
      · exact hday
      · obtain ⟨item, hitem, rfl⟩ := List.mem_map.mp hn
        exact husers item hitem
    · rw [List.length_cons, List.length_map]
      exact hfew
  refine (wp_bind _ _ _ _ _).mpr (wp_liftExcept_ok hbind ?_)
  refine (wp_bind _ _ _ _ _).mpr (wp_select fun s₁ he₁ => ?_)
  -- what the query has found for each entry
  let rows := (s₁.db .stat_user).rows.filter fun (r : StatUser) =>
    r.record_at = day && r.server_rate = rate && r.user_id ∈ traffic.items.map Prod.fst
  let existing := fun user_id => rows.reverse.find? fun (r : StatUser) => r.user_id = user_id
  have hex : ∀ item ∈ traffic.items,
      existing item.1 = (v (.user rate item.1) day).map (Tally.userRow day rate item.1) := by
    intro item hitem
    have hrow := hstate s₁ he₁.inv item hitem day
    cases hfind : existing item.1 with
    | none =>
      cases hv : v (.user rate item.1) day with
      | none => rfl
      | some x =>
        obtain ⟨-, hmem⟩ := hrow.stored _ (congrArg _ hv)
        have hrows : x.userRow day rate item.1 ∈ rows.reverse := by
          refine List.mem_reverse.mpr (List.mem_filter.mpr ⟨hmem, ?_⟩)
          rw [Bool.and_eq_true, Bool.and_eq_true, decide_eq_true_eq, decide_eq_true_eq,
            decide_eq_true_eq]
          exact ⟨⟨rfl, rfl⟩, List.mem_map_of_mem hitem⟩
        have hne := List.find?_eq_none.mp hfind _ hrows
        simp [Tally.userRow] at hne
    | some r =>
      have hid : StatUser.user_id r = item.1 := by simpa using List.find?_some hfind
      obtain ⟨hmem, hp⟩ :=
        List.mem_filter.mp (List.mem_reverse.mp (List.mem_of_find?_eq_some hfind))
      rw [Bool.and_eq_true, Bool.and_eq_true, decide_eq_true_eq, decide_eq_true_eq] at hp
      refine (hrow.row r hmem ?_).symm
      unfold userKey
      rw [hp.1.1, hp.1.2, hid]
  have hids : ∀ user_id r, existing user_id = some r → StatUser.user_id r = user_id :=
    fun user_id r h => by simpa using List.find?_some h
  let updates := (Queues.statUserUpdates traffic existing).insertionSort fun p q => p.1.id ≤ q.1.id
  have hperm : updates.Perm (Queues.statUserUpdates traffic existing) := List.perm_insertionSort _ _
  have hmem : ∀ p, p ∈ updates ↔ ∃ item ∈ traffic.items, ∃ x, v (.user rate item.1) day = some x ∧
      p.1 = x.userRow day rate item.1 ∧ p.2 = newUserRow rate record_type ids v day item :=
    fun p => hperm.mem_iff.trans (mem_statUserUpdates traffic rate record_type ids hex p)
  -- a row that the job makes fits
  have hnew : ∀ item ∈ traffic.items,
      fitsBigint (newUserRow rate record_type ids v day item).u = true ∧
      fitsBigint (newUserRow rate record_type ids v day item).d = true := fun item hitem =>
    hfits.add (adds_stat_user traffic rate record_type ids hitem) day
  refine (wp_bind _ _ _ _ _).mpr (wp_statUser_updates ?_ ?_ ?_ he₁.inv ?_)
  · intro p hp
    obtain ⟨item, hitem, -, -, -, hp₂⟩ := (hmem p).mp hp
    rw [hp₂, Bool.and_eq_true]
    exact hnew item hitem
  · refine (hperm.map _).nodup_iff.mpr ?_
    rw [statUserUpdates_user_ids traffic hids]
    exact traffic.nodup.filter _
  · intro p hp
    obtain ⟨item, hitem, x, hx, hp₁, hp₂⟩ := (hmem p).mp hp
    rw [hp₁, hp₂]
    unfold newUserRow
    rw [hx]
    exact ⟨rfl, rfl, fun s hi => (hstate s hi item hitem day).get (congrArg _ hx)⟩
  · intro s₂ ss₂ hi₂ hst₂
    have hins := mem_statUserInserts traffic rate record_type ids hex
    refine (wp_bind _ _ _ _ _).mpr (wp_statUser_inserts hfresh ?_ hi₂ hst₂
      fun s₃ ss₃ _ hst₃ s₄ hr₄ _ => ?_)
    · intro r hr
      obtain ⟨item, hitem, hnone, rfl⟩ := (hins r).mp hr
      obtain ⟨hu, hd⟩ := hnew item hitem
      unfold newUserRow at hu hd ⊢
      rw [hnone] at hu hd ⊢
      simp only [StatUser.fits, Bool.and_eq_true, decide_eq_true_eq]
      exact ⟨⟨⟨⟨husers item hitem, hu⟩, hd⟩, htype⟩, hday⟩
    refine statPost_user traffic rate record_type ids (hst₃.rely hr₄)
      ⟨fun r hr => ?_, fun item hitem => ?_⟩
    · rcases List.mem_append.mp hr with hr | hr
      · obtain ⟨old, hp⟩ := mem_changed hr
        obtain ⟨item, hitem, -, -, -, hnew⟩ := (hmem _).mp hp
        exact ⟨item, hitem, hnew⟩
      · obtain ⟨item, hitem, -, hnew⟩ := (hins r).mp hr
        exact ⟨item, hitem, hnew⟩
    · cases hv : v (.user rate item.1) day with
      | none => exact Or.inl (List.mem_append_right _ ((hins _).mpr ⟨item, hitem, hv, rfl⟩))
      | some x =>
        have hp :=
          (hmem (x.userRow day rate item.1, newUserRow rate record_type ids v day item)).mpr
          ⟨item, hitem, x, hv, rfl, rfl⟩
        by_cases heq : x.userRow day rate item.1 = newUserRow rate record_type ids v day item
        · refine Or.inr (congrArg some (Tally.userRow_injective (heq.trans ?_)))
          unfold newUserRow
          rw [hv]
        · refine Or.inl (List.mem_append_left _ (List.mem_map.mpr
            ⟨(x.userRow day rate item.1, newUserRow rate record_type ids v day item), ?_, rfl⟩))
          exact List.mem_filter.mpr ⟨hp, decide_eq_true heq⟩

end

end

end PyBoard
