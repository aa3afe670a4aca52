/-
  PyBoard.Results.Statistics — the daily statistics of concurrent jobs.

  Main results:
    * `statistics_survive` — while no two jobs for the same node, or for the same user at
      the same rate, overlap, and every job fits into the columns, a statistic has at most
      one row on a day, its columns are the sums of the reports that count for the day,
      and no job fails.
    * `overlapping_jobs_diverge` — two jobs that overlap leave two rows, or lose a
      report, and after two rows every later job of the day fails; so does a job whose
      sum leaves BIGINT.
-/
import PyBoard.Specs.Statistics

namespace PyBoard

open Relational

/-! ## §1. Runs. -/

/-- Two jobs that add to one statistic. -/
def StatJob.clash : StatJob → StatJob → Bool
  | .stat_server server_id protocol .., .stat_server server_id' protocol' .. =>
      server_id = server_id' && protocol = protocol'
  | .stat_user traffic rate .., .stat_user traffic' rate' .. =>
      rate = rate' && traffic.items.any fun item => traffic'.items.any fun item' => item.1 = item'.1
  | _, _ => false

/-- The jobs that have ended, the newest first. -/
abbrev StatLog := List (Ending StatJob Tbl PyExc (Option Int))

/-- The columns `u` and `d` of the rows of a statistic on a day. -/
def StatKey.rows (day : Int) (db : Database) : StatKey → List (Int × Int)
  | .server server_id server_type =>
      ((db .stat_server).rows.filter (serverQuery server_id server_type day)).map
        fun (r : StatServer) => (r.u, r.d)
  | .user server_rate user_id =>
      ((db .stat_user).rows.filter (userQuery server_rate user_id day)).map
        fun (r : StatUser) => (r.u, r.d)

/-- **Every job that has ended fits**, on top of the rows that were stored then. -/
def AllFit (log : StatLog) : Prop :=
  ∀ e ∈ log, e.label.Fits fun K day => (K.rows day e.before.db).sum

/-- What a job that has completed has reported for a statistic and a day. -/
def reportedFor (K : StatKey) (day : Int) (e : Ending StatJob Tbl PyExc (Option Int)) : Int × Int :=
  match e.result with
  | .ok answer => if answer = some day then ((e.label.adds K).map Tally.columns).getD 0 else 0
  | .error _ => 0

/-- The tally of a statistic after the jobs that have ended. -/
def tallyAfter (init : StatKey → Int → Option Tally) (K : StatKey) (day : Int) :
    StatLog → Option Tally
  | [] => init K day
  | e :: log =>
      match e.result with
      | .ok answer => e.label.after answer K day (tallyAfter init K day log)
      | .error _ => tallyAfter init K day log

theorem StatJob.clash_symm (job job' : StatJob) : job.clash job' = job'.clash job := by
  cases job with
  | stat_user traffic rate record_type ids =>
    cases job' with
    | stat_user traffic' rate' record_type' ids' =>
      unfold clash
      rw [Bool.eq_iff_iff]
      simp only [Bool.and_eq_true, decide_eq_true_eq, List.any_eq_true]
      constructor
      · rintro ⟨hrate, i, hi, j, hj, heq⟩
        exact ⟨hrate.symm, j, hj, i, hi, heq.symm⟩
      · rintro ⟨hrate, i, hi, j, hj, heq⟩
        exact ⟨hrate.symm, j, hj, i, hi, heq.symm⟩
    | stat_server server_id' protocol' traffic' record_type' id' => rfl
  | stat_server server_id protocol traffic record_type id =>
    cases job' with
    | stat_user traffic' rate' record_type' ids' => rfl
    | stat_server server_id' protocol' traffic' record_type' id' =>
      unfold clash
      rw [Bool.eq_iff_iff]
      simp only [Bool.and_eq_true, decide_eq_true_eq]
      exact ⟨fun h => ⟨h.1.symm, h.2.symm⟩, fun h => ⟨h.1.symm, h.2.symm⟩⟩

/-- A job adds nothing to a statistic that another one, with which it does not clash, adds to. -/
theorem StatJob.adds_none_of_not_clash {job job' : StatJob} (h : job.clash job' = false)
    {K : StatKey} (hK : (job'.adds K).isSome = true) : job.adds K = none := by
  by_contra hne
  have hK' := Option.isSome_iff_ne_none.mp hK
  cases K with
  | server server_id server_type =>
    cases job with
    | stat_user traffic rate record_type ids => exact hne rfl
    | stat_server server_id₁ protocol₁ traffic record_type id =>
      cases job' with
      | stat_user traffic' rate' record_type' ids' => exact hK' rfl
      | stat_server server_id₂ protocol₂ traffic' record_type' id' =>
        cases adds_stat_server_some _ _ _ _ _ hne
        cases adds_stat_server_some _ _ _ _ _ hK'
        simp [clash] at h
  | user server_rate user_id =>
    cases job with
    | stat_server server_id protocol traffic record_type id =>
      cases adds_stat_server_some _ _ _ _ _ hne
    | stat_user traffic rate record_type ids =>
      cases job' with
      | stat_server server_id protocol traffic' record_type' id' =>
        cases adds_stat_server_some _ _ _ _ _ hK'
      | stat_user traffic' rate' record_type' ids' =>
        obtain ⟨rfl, i, hi, hid⟩ := adds_stat_user_some _ _ _ _ hne
        obtain ⟨rfl, j, hj, hjd⟩ := adds_stat_user_some _ _ _ _ hK'
        simp only [clash, decide_true, Bool.true_and] at h
        exact List.any_eq_false.mp h i hi (List.any_eq_true.mpr ⟨j, hj,
          decide_eq_true (hid.trans hjd.symm)⟩)

/-! ## §2. Contracts. -/

variable {init : StatKey → Int → Option Tally} {log : StatLog}

/-- A job relies on the tallies of its own statistics. -/
def statContract (job : StatJob) (v : StatKey → Int → Option Tally) : Contract StatJob Tbl :=
  Contract.relying drawsFresh
    (fun s => ∀ K : StatKey, (job.adds K).isSome = true → ∀ day, K.Has day (v K day) s.db)
    (fun _ _ => True) (fun _ => trivial) (fun _ _ => trivial) (fun _ h => h) (fun _ _ => trivial)

/-- Its view of them is what the jobs that have ended make of them, while these have fitted. -/
def statView (init : StatKey → Int → Option Tally) (job : StatJob)
    (v : StatKey → Int → Option Tally) (log : StatLog) : Prop :=
  AllFit log ∧
    ∀ K : StatKey, (job.adds K).isSome = true → ∀ day, tallyAfter init K day log = v K day

/-- A job that fits ends as it should. -/
def StatEnd (job : StatJob) (v : StatKey → Int → Option Tally) (r : Except PyExc (Option Int))
    (s : State Tbl) (ss : Session Tbl) : Prop :=
  (job.Fits fun K day => columnsOf (v K day)) → StatPost job v r s ss

/-- **The invariant**: the rows are the tallies of the jobs that have ended, and none failed. -/
def StatInv (init : StatKey → Int → Option Tally) (s : State Tbl) (log : StatLog) : Prop :=
  (∀ (K : StatKey) day, K.Has day (tallyAfter init K day log) s.db) ∧
    ∀ e ∈ log, e.result.isOk = true

theorem drawsFresh_insert {t : Tbl} {r : t.Row} {s : State Tbl} {ss : Session Tbl}
    (h : drawsFresh.stmt (.insert t r) s ss = true) : (s.view ss).refuses t r = false := by
  have h' : (!(s.view ss).refuses t r) = true := h
  simpa using h'

/-- **A job that fits ends as it should.** -/
theorem statContract_spec (job : StatJob) (v : StatKey → Int → Option Tally) (s : State Tbl) :
    wp (statContract job v) job.prog (Ends (statContract job v) (StatEnd job v)) s
      Session.fresh := by
  by_cases hfits : job.Fits fun K day => columnsOf (v K day)
  swap
  · exact wp_of_forall (fun _ _ _ _ _ _ h => absurd h hfits) _ _
  refine wp_mono (Q := Ends (statContract job v) (StatPost job v)) ?_
    fun r s' ss' h s'' hr hi _ => h s'' hr hi
  cases job with
  | stat_user traffic rate record_type ids =>
    refine wp_statUser traffic rate record_type ids (fun s hi item hitem day => ?_)
      (fun s ss r h => drawsFresh_insert h) (fun s ss h => h) hfits
    refine hi (.user rate item.1) ?_ day
    rw [adds_stat_user traffic rate record_type ids hitem]
    rfl
  | stat_server server_id protocol traffic record_type id =>
    refine wp_statServer server_id protocol traffic record_type id (fun s hi day => ?_)
      (fun s ss r h => drawsFresh_insert h) (fun s ss h => h) hfits
    refine hi (.server server_id protocol) ?_ day
    rw [adds_stat_server]
    rfl

/-! ## §3. Sums. -/

theorem StatKey.Has.rows_eq {K : StatKey} {day : Int} {v : Option Tally} {db : Database}
    (h : K.Has day v db) : K.rows day db = (v.map Tally.columns).toList := by
  cases K with
  | server server_id server_type =>
    show ((db .stat_server).rows.filter (serverQuery server_id server_type day)).map _ = _
    rw [OneRow.filter h (serverQuery_iff server_id server_type day)]
    cases v <;> rfl
  | user server_rate user_id =>
    show ((db .stat_user).rows.filter (userQuery server_rate user_id day)).map _ = _
    rw [OneRow.filter h (userQuery_iff server_rate user_id day)]
    cases v <;> rfl

/-- Their sum is that of the tally. -/
theorem StatKey.Has.sum_rows {K : StatKey} {day : Int} {v : Option Tally} {db : Database}
    (h : K.Has day v db) : (K.rows day db).sum = columnsOf v := by
  rw [h.rows_eq]
  cases v with
  | none => rfl
  | some x => exact List.sum_singleton

/-- A statistic with at most one row has a tally. -/
theorem StatKey.exists_has {K : StatKey} {day : Int} {db : Database}
    (h : (K.rows day db).length ≤ 1) : ∃ v, K.Has day v db := by
  cases K with
  | server server_id server_type =>
    unfold StatKey.rows at h
    rw [List.length_map] at h
    have hrow := OneRow.of_length (t := Tbl.stat_server)
        (serverQuery_iff server_id server_type day) h
    generalize ((db .stat_server).rows.filter _).head? = r at hrow
    cases r with
    | none => exact ⟨none, hrow⟩
    | some r =>
      obtain ⟨hday, hid, htype⟩ : r.record_at = day ∧ r.server_id = server_id ∧
          r.server_type = server_type := by simpa [serverKey] using (hrow.stored r rfl).1
      refine ⟨some ⟨r.id, r.u, r.d, r.record_type⟩, ?_⟩
      subst hday hid htype
      exact hrow
  | user server_rate user_id =>
    unfold StatKey.rows at h
    rw [List.length_map] at h
    have hrow := OneRow.of_length (t := Tbl.stat_user) (userQuery_iff server_rate user_id day) h
    generalize ((db .stat_user).rows.filter _).head? = r at hrow
    cases r with
    | none => exact ⟨none, hrow⟩
    | some r =>
      obtain ⟨hday, hrate, hid⟩ : r.record_at = day ∧ r.server_rate = server_rate ∧
          r.user_id = user_id := by simpa [userKey] using (hrow.stored r rfl).1
      refine ⟨some ⟨r.id, r.u, r.d, r.record_type⟩, ?_⟩
      subst hday hrate hid
      exact hrow

theorem columnsOf_after (job : StatJob) (answer : Option Int) (K : StatKey) (day : Int)
    (v : Option Tally) : columnsOf (job.after answer K day v) = columnsOf v +
      if answer = some day then ((job.adds K).map Tally.columns).getD 0 else 0 := by
  by_cases hday : answer = some day
  · cases hadds : job.adds K with
    | none =>
      rw [StatJob.after_of_adds_none hadds, if_pos hday]
      exact (add_zero _).symm
    | some y =>
      rw [hday, StatJob.after_of_adds hadds, if_pos rfl]
      cases v with
      | none => exact (zero_add _).symm
      | some x => rfl
  · rw [StatJob.after_of_ne hday, if_neg hday, add_zero]

/-- **A tally is the sum** of what it was and of the reports. -/
theorem columnsOf_tallyAfter (init : StatKey → Int → Option Tally) (K : StatKey) (day : Int)
    (log : StatLog) : columnsOf (tallyAfter init K day log)
      = columnsOf (init K day) + (log.map (reportedFor K day)).sum := by
  induction log with
  | nil => exact (add_zero _).symm
  | cons e log ih =>
    rw [List.map_cons, List.sum_cons]
    obtain ⟨job, result, s, ss⟩ := e
    cases result with
    | error e =>
      show columnsOf (tallyAfter init K day log) = columnsOf (init K day) + (0 + _)
      rw [ih, zero_add]
    | ok answer =>
      show columnsOf (job.after answer K day (tallyAfter init K day log)) = _
      rw [columnsOf_after, ih, add_assoc, add_comm (List.sum _)]
      rfl

/-! ## §4. The statistics survive. -/

theorem AllFit.tail {e : Ending StatJob Tbl PyExc (Option Int)} (h : AllFit (e :: log)) :
    AllFit log :=
  fun e' he' => h e' (List.mem_cons_of_mem e he')

/-- **A job that ends meets its postcondition** for the tallies of the jobs before it. -/
theorem StatInv.post {job : StatJob} {r : Except PyExc (Option Int)} {s : State Tbl}
    {ss : Session Tbl} (hfit : AllFit (⟨job, r, s, ss⟩ :: log))
    (hend : ∀ v, statView init job v log → StatEnd job v r s ss)
    (h : AllFit log → StatInv init s log) :
    StatPost job (fun K day => tallyAfter init K day log) r s ss := by
  refine hend _ ⟨hfit.tail, fun _ _ _ => rfl⟩ ?_
  have hsums : (fun K day => columnsOf (tallyAfter init K day log))
      = fun (K : StatKey) day => (K.rows day s.db).sum := by
    funext K day
    exact (((h hfit.tail).1 K day).sum_rows).symm
  rw [hsums]
  exact hfit _ List.mem_cons_self

/-- **What one completed job does to the invariant.** -/
theorem StatInv.commit {job : StatJob} {answer : Option Int} {s : State Tbl} {ss : Session Tbl}
    (hpost : StatPost job (fun K day => tallyAfter init K day log) (.ok answer) s ss)
    (h : StatInv init s log) : StatInv init (s.commit ss) (⟨job, .ok answer, s, ss⟩ :: log) := by
  obtain ⟨_, heq, hrows⟩ := hpost
  cases heq
  refine ⟨fun K day => hrows K day _ (fun _ => rfl) (h.1 K day), fun e he => ?_⟩
  rcases List.mem_cons.mp he with rfl | he
  · rfl
  · exact h.2 e he

/-- **The daily statistics survive**: in every run in which no two jobs that add to the same
    statistic overlap and every job fits, every statistic has at most one row on a day, which
    holds the sums of the reports that completed jobs have made for the day, and no job fails. -/
theorem statistics_survive {db : Database} {now : Int}
    {c : Config StatJob Tbl PyExc (Option Int)}
    (hdb : ∀ (K : StatKey) day, (K.rows day db).length ≤ 1)
    (hrun : Apart StatJob.prog drawsFresh StatJob.clash (.quiet ⟨db, now⟩) log c)
    (hfit : AllFit log) :
    (∀ e ∈ log, e.result.isOk = true) ∧
      ∀ (K : StatKey) day, (K.rows day c.state.db).length ≤ 1 ∧
        (K.rows day c.state.db).sum
          = (K.rows day db).sum + (log.map (reportedFor K day)).sum := by
  have hexists : ∀ (K : StatKey) day, ∃ v, K.Has day v db := fun K day =>
    StatKey.exists_has (hdb K day)
  choose init hinit using hexists
  have hinv : StatInv init c.state log := by
    refine (Apart.induction (P := statContract) (E := StatEnd) (K := statView init)
      (I := fun s log => AllFit log → StatInv init s log) StatJob.clash_symm (fun _ _ => rfl) ?_
      (fun job v _ s _ => statContract_spec job v s) ?_ ?_ ?_ ?_ ?_ hrun rfl ?_).1 hfit
    · intro s log job v hI hK K hadds day
      rw [← hK.2 K hadds day]
      exact (hI hK.1).1 K day
    · -- the tallies of a live job stay
      intro job job' v r s ss log hclash hK
      refine ⟨hK.1.tail, fun K hadds day => ?_⟩
      rw [← hK.2 K hadds day]
      cases r with
      | error e => rfl
      | ok answer => exact (StatJob.after_of_adds_none
        (StatJob.adds_none_of_not_clash hclash hadds)).symm
    · exact fun _ _ _ _ _ _ _ _ _ _ _ _ _ => trivial
    · exact fun s log d hI => hI
    · exact fun job answer s ss log _ _ _ hend hI hfit =>
        (hI hfit.tail).commit (StatInv.post hfit hend hI)
    · intro job e s ss log _ hend hI hfit
      obtain ⟨_, heq, -⟩ := StatInv.post hfit hend hI
      cases heq
    · exact fun _ => ⟨hinit, fun e he => by cases he⟩
  refine ⟨hinv.2, fun K day => ?_⟩
  have hrows := hinv.1 K day
  rw [hrows.sum_rows, (hinit K day).sum_rows, columnsOf_tallyAfter, hrows.rows_eq]
  refine ⟨?_, rfl⟩
  cases tallyAfter init K day log with
  | none => exact Nat.zero_le 1
  | some x => exact le_refl 1

/-! ## §5. Whether a job fits. -/

instance (job : StatJob) : Decidable job.Named :=
  match job with
  | .stat_user traffic _ record_type _ =>
      inferInstanceAs (Decidable ((∀ item ∈ traffic.items, integerFits item.1 = true) ∧
        traffic.items.length + 2 ≤ QUERY_ARGUMENTS_MAX ∧ record_type.length ≤ 2))
  | .stat_server server_id protocol _ record_type _ =>
      inferInstanceAs (Decidable (integerFits server_id = true ∧ protocol.length ≤ 11 ∧
        record_type.length ≤ 1))

/-- The statistics that a job adds to. -/
def StatJob.keys : StatJob → List StatKey
  | .stat_user traffic rate _ _ => traffic.items.map fun item => .user rate item.1
  | .stat_server server_id protocol _ _ _ => [.server server_id protocol]

theorem StatJob.mem_keys {job : StatJob} {K : StatKey} (h : job.adds K ≠ none) : K ∈ job.keys := by
  cases job with
  | stat_user traffic rate record_type ids =>
    cases K with
    | server server_id server_type => exact absurd rfl h
    | user server_rate user_id =>
      obtain ⟨rfl, item, hitem, rfl⟩ := adds_stat_user_some traffic rate record_type ids h
      exact List.mem_map_of_mem hitem
  | stat_server server_id protocol traffic record_type id =>
    exact List.mem_singleton.mpr (adds_stat_server_some _ _ _ _ _ h)

/-- The days that have a row. -/
def statDays (db : Database) : List Int :=
  (db .stat_server).rows.map (fun r : StatServer => r.record_at) ++
    (db .stat_user).rows.map fun r : StatUser => r.record_at

theorem StatKey.rows_eq_nil {K : StatKey} {day : Int} {db : Database} (h : day ∉ statDays db) :
    K.rows day db = [] := by
  rw [statDays, List.mem_append, not_or] at h
  cases K with
  | server server_id server_type =>
    refine List.map_eq_nil_iff.mpr (List.filter_eq_nil_iff.mpr fun r hr hq => h.1 ?_)
    have hkey := (serverQuery_iff server_id server_type day r).mp hq
    exact List.mem_map.mpr ⟨r, hr, congrArg Prod.fst hkey⟩
  | user server_rate user_id =>
    refine List.map_eq_nil_iff.mpr (List.filter_eq_nil_iff.mpr fun r hr hq => h.2 ?_)
    have hkey := (userQuery_iff server_rate user_id day r).mp hq
    exact List.mem_map.mpr ⟨r, hr, congrArg Prod.fst hkey⟩

/-- Does the tally fit on top of the sums? -/
def Tally.fitsOn (y : Tally) (sums : Int × Int) : Bool :=
  fitsBigint (sums.1 + y.u) && fitsBigint (sums.2 + y.d)

/-- Does the job fit on top of the stored rows? -/
def StatJob.fitsNow (job : StatJob) (db : Database) : Bool :=
  decide job.Named && job.keys.all fun K => (job.adds K).all fun y =>
    y.fitsOn 0 && (statDays db).all fun day => y.fitsOn (K.rows day db).sum

theorem StatJob.fits_of_fitsNow {job : StatJob} {db : Database} (h : job.fitsNow db = true) :
    job.Fits fun K day => (K.rows day db).sum := by
  obtain ⟨hnamed, hkeys⟩ := (Bool.and_eq_true _ _).mp h
  refine ⟨of_decide_eq_true hnamed, fun K y hadds day => ?_⟩
  have hkey := List.all_eq_true.mp hkeys K (StatJob.mem_keys (by rw [hadds]; exact nofun))
  rw [hadds, Option.all_some, Bool.and_eq_true] at hkey
  have hfits : y.fitsOn (K.rows day db).sum = true := by
    by_cases hday : day ∈ statDays db
    · exact List.all_eq_true.mp hkey.2 day hday
    · rw [StatKey.rows_eq_nil hday]
      exact hkey.1
  exact (Bool.and_eq_true _ _).mp hfits

/-! ## §6. Jobs that overlap. -/

/-- A report of user 7: upload `u`, download 1. -/
def reportOf (u : Int) : TrafficReport := ⟨[(7, u, 1)], List.nodup_singleton 7⟩

/-- A job for the node 3, and one for the user 7 at the rate 1. -/
def nodeJob (u id : Int) : StatJob := .stat_server 3 "vless" (reportOf u) "d" id

def userJob (u id : Int) : StatJob := .stat_user (reportOf u) (.finite 1) "d" fun _ => id

def nodeKey : StatKey := .server 3 "vless"

def userKeyOne : StatKey := .user (.finite 1) 7

/-- Two jobs, one after the other: three statements each. -/
def oneByOne (job job' : StatJob) : List (Event StatJob) :=
  [.begin job] ++ List.replicate 3 (.exec 0) ++ [.finish 0, .begin job'] ++
    List.replicate 3 (.exec 0) ++ [.finish 0]

/-- Two jobs that have both read the rows before one of them stores. -/
def bothRead (job job' : StatJob) : List (Event StatJob) :=
  [.begin job, .begin job'] ++ List.replicate 2 (.exec 0) ++ List.replicate 2 (.exec 1) ++
    [.exec 0, .finish 0, .exec 0, .finish 0]

/-- Did the jobs complete, newest first, and what rows do they leave on the first day? -/
def statOutcome (K : StatKey) (log : StatLog) (c : Config StatJob Tbl PyExc (Option Int)) :
    List Bool × List (Int × Int) :=
  (log.map fun e => e.result.isOk, K.rows 0 c.state.db)

/-- Two jobs that do not overlap: both reports are in the row of the node. -/
theorem statistics_survive_oneByOne : ∃ log c,
    Apart StatJob.prog drawsFresh StatJob.clash (.quiet ⟨Database.empty, 1000⟩) log c ∧
      nodeKey.rows 0 c.state.db = [(12, 2)] ∧
      (nodeKey.rows 0 c.state.db).sum = (nodeKey.rows 0 Database.empty).sum +
        (log.map (reportedFor nodeKey 0)).sum := by
  obtain ⟨log, c, hrun, houtcome⟩ := Apart.exists_of_steps StatJob.prog drawsFresh StatJob.clash
    (.quiet ⟨Database.empty, 1000⟩) (oneByOne (nodeJob 5 1) (nodeJob 7 2))
    (fun log c => (log.all fun e => e.label.fitsNow e.before.db, statOutcome nodeKey log c))
    (b := (true, [true, true], [(12, 2)])) (by decide +kernel)
  obtain ⟨hfit, houtcome⟩ := Prod.mk.inj houtcome
  refine ⟨log, c, hrun, congrArg Prod.snd houtcome, ?_⟩
  refine ((statistics_survive (fun K day => ?_) hrun fun e he =>
    StatJob.fits_of_fitsNow (List.all_eq_true.mp hfit e he)).2 nodeKey 0).2
  cases K <;> exact Nat.zero_le 1

/-- One row of the node on the first day. -/
def oneStatRow : Database := Database.empty.apply [
  .put Tbl.stat_server ({ id := 1, server_id := 3, server_type := "vless", u := 0, d := 0,
                          record_type := "d", record_at := 0 } : StatServer)]

/-- **Jobs that overlap**: two that find no row leave two, for a node and for a user, and the
    next job for the node fails; two that find a row lose one of their reports.  A job also
    fails, after the one before it has ended, when their sum leaves BIGINT. -/
theorem overlapping_jobs_diverge :
    (∃ log c, Apart StatJob.prog drawsFresh (fun _ _ => false)
      (.quiet ⟨Database.empty, 1000⟩) log c ∧
      statOutcome nodeKey log c = ([false, true, true], [(5, 1), (7, 1)])) ∧
    (∃ log c, Apart StatJob.prog drawsFresh (fun _ _ => false)
      (.quiet ⟨Database.empty, 1000⟩) log c ∧
      statOutcome userKeyOne log c = ([true, true], [(5, 1), (7, 1)])) ∧
    (∃ log c, Apart StatJob.prog drawsFresh (fun _ _ => false) (.quiet ⟨oneStatRow, 1000⟩) log c ∧
      statOutcome nodeKey log c = ([true, true], [(7, 1)])) ∧
    ∃ log c, Apart StatJob.prog drawsFresh StatJob.clash (.quiet ⟨Database.empty, 1000⟩) log c ∧
      statOutcome nodeKey log c = ([false, true], [(2 ^ 63 - 1, 1)]) := by
  refine ⟨?_, ?_, ?_, ?_⟩
  · exact Apart.exists_of_steps StatJob.prog drawsFresh (fun _ _ => false)
      (.quiet ⟨Database.empty, 1000⟩) (bothRead (nodeJob 5 1) (nodeJob 7 2) ++
        [.begin (nodeJob 9 3), .exec 0, .exec 0, .finish 0]) (statOutcome nodeKey)
      (by decide +kernel)
  · exact Apart.exists_of_steps StatJob.prog drawsFresh (fun _ _ => false)
      (.quiet ⟨Database.empty, 1000⟩) (bothRead (userJob 5 1) (userJob 7 2))
      (statOutcome userKeyOne)
      (by decide +kernel)
  · exact Apart.exists_of_steps StatJob.prog drawsFresh (fun _ _ => false)
      (.quiet ⟨oneStatRow, 1000⟩) (bothRead (nodeJob 5 2) (nodeJob 7 3)) (statOutcome nodeKey)
      (by decide +kernel)
  · exact Apart.exists_of_steps StatJob.prog drawsFresh StatJob.clash
      (.quiet ⟨Database.empty, 1000⟩) ([.begin (nodeJob (2 ^ 63 - 1) 1)] ++
        List.replicate 3 (.exec 0) ++ [.finish 0, .begin (nodeJob 1 2), .exec 0, .exec 0,
          .finish 0])
      (statOutcome nodeKey) (by decide +kernel)

end PyBoard
