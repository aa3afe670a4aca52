/-
  PyBoard.Results.Alive — the addresses that nodes report together.

  A report reads the document of a user and writes it back, and nothing keeps another
  report away in between.

  Main results:
    * `alive_reports_kept` — while no two reports of one user overlap, his document holds
      the last report of every node and counts their addresses.
    * `overlapping_report_lost` — of two that overlap, one is lost.
-/
import PyBoard.Python.Utc
import PyBoard.Specs.Alive

namespace PyBoard

open Relational ServerService

/-! ## §1. Runs. -/

/-- Two calls that report a common user. -/
def AliveCall.clash (rt : Runtime) (call call' : AliveCall) : Bool :=
  (call.reports rt).any fun p => (call'.reports rt).any fun p' => p.1 = p'.1

/-- The calls that have ended, the newest first. -/
abbrev AliveLog := List (Ending AliveCall Tbl PyExc Unit)

/-- What a call that has committed reports of a user. -/
def reportOfUser (rt : Runtime) (uid : String) (e : Ending AliveCall Tbl PyExc Unit) :
    Option (List Json) :=
  if e.result.isOk then (e.label.reports rt).lookup uid else none

/-- The last report of each node, among the calls that have committed. -/
def latestReports (rt : Runtime) (uid : String) : AliveLog → List NodeReport
  | [] => []
  | e :: log =>
      match reportOfUser rt uid e with
      | some ips => renew (latestReports rt uid log) e.label.node ips
      | none => latestReports rt uid log

/-- **The document of a user** holds the reports, counts their addresses, and lives for more
    than 100 seconds from `start` on. -/
def AliveKept (rt : Runtime) (start mode : Int) (uid : String) (reports : List NodeReport)
    (db : Database) : Prop :=
  ∃ fields expires_at,
    (db .runtime_cache).get? (aliveKey uid) = some ⟨aliveKey uid, .obj fields, some expires_at⟩ ∧
    start + 100 < expires_at ∧
    (∀ r ∈ reports, ∃ t, Json.lookup fields r.1.key = some (aliveEntry r.2 t)) ∧
    Json.lookup fields "alive_ip" = some (.int (aliveCount rt mode (reports.flatMap Prod.snd)))

variable {rt : Runtime} {start : Int} {v : Option Setting} {log : AliveLog}

theorem AliveCall.clash_symm (call call' : AliveCall) :
    call.clash rt call' = call'.clash rt call := by
  unfold clash
  rw [Bool.eq_iff_iff]
  simp only [List.any_eq_true, decide_eq_true_eq]
  constructor
  · rintro ⟨p, hp, p', hp', heq⟩
    exact ⟨p', hp', p, hp, heq.symm⟩
  · rintro ⟨p, hp, p', hp', heq⟩
    exact ⟨p', hp', p, hp, heq.symm⟩

/-- A call reports no user of one that it does not clash with. -/
theorem lookup_of_not_clash {call call' : AliveCall} (h : call.clash rt call' = false)
    {uid : String} (huid : uid ∈ (call'.reports rt).map Prod.fst) :
    (call.reports rt).lookup uid = none := by
  rw [List.lookup_eq_none_iff]
  intro p hp
  rw [bne_iff_ne]
  intro heq
  obtain ⟨p', hp', rfl⟩ := List.mem_map.mp huid
  have hclash : call.clash rt call' = true :=
    List.any_eq_true.mpr ⟨p, hp, List.any_eq_true.mpr ⟨p', hp', decide_eq_true heq.symm⟩⟩
  rw [h] at hclash
  cases hclash

/-! ## §2. The invariant. -/

/-- The cache holds what the calls that have committed make of it. -/
structure AliveKeeping (rt : Runtime) (start : Int) (v : Option Setting) (s : State Tbl)
    (log : AliveLog) : Prop where
  mode : KeyState "device_limit_mode" v s.db
  now : start ≤ s.now
  rows : ∀ uid, AliveRow rt start (aliveMode rt v) uid (latestReports rt uid log)
    ((s.db .runtime_cache).get? (aliveKey uid))

/-- A request's view of the reports of its users. -/
def aliveView (rt : Runtime) (call : AliveCall) (V : String → List NodeReport) (log : AliveLog) :
    Prop :=
  ∀ uid ∈ (call.reports rt).map Prod.fst, latestReports rt uid log = V uid

theorem AliveKeeping.inv {s : State Tbl} {call : AliveCall} {V : String → List NodeReport}
    (h : AliveKeeping rt start v s log) (hV : aliveView rt call V log) :
    AliveInv rt start v call V s := by
  refine ⟨h.mode, h.now, fun uid huid => ?_⟩
  rw [← hV uid huid]
  exact h.rows uid

/-- **A call that commits.** -/
theorem AliveKeeping.commit {call : AliveCall} {s : State Tbl} {ss : Session Tbl}
    (h : AliveKeeping rt start v s log)
    (hpost : ∀ V, aliveView rt call V log → AlivePost rt start v call V (.ok ()) s ss) :
    AliveKeeping rt start v (s.commit ss) (⟨call, .ok (), s, ss⟩ :: log) := by
  obtain ⟨hcopies, hstored⟩ := hpost (fun uid => latestReports rt uid log) (fun _ _ => rfl) rfl
  refine ⟨h.mode.copies hcopies, h.now, fun uid => ?_⟩
  have huid := hstored uid
  show AliveRow rt start (aliveMode rt v) uid
    (match (call.reports rt).lookup uid with
      | some ips => renew (latestReports rt uid log) call.node ips
      | none => latestReports rt uid log)
    ((s.db.apply ss.ws .runtime_cache).get? (aliveKey uid))
  cases hreport : (call.reports rt).lookup uid with
  | none =>
      rw [hreport] at huid
      rw [huid s.db]
      exact h.rows uid
  | some ips =>
      rw [hreport] at huid
      obtain ⟨row, hrow, hget⟩ := huid
      rw [hget s.db]
      exact hrow

/-! ## §3. The reports are kept. -/

/-- A document with a report in it. -/
theorem AliveRow.kept {mode : Int} {uid : String} {reports : List NodeReport} {db : Database}
    (h : AliveRow rt start mode uid reports ((db .runtime_cache).get? (aliveKey uid)))
    (hne : reports ≠ []) : AliveKept rt start mode uid reports db := by
  rcases h with ⟨hnone, -⟩ | ⟨fields, expires_at, hget, hlive, hentries, hcount⟩
  · exact absurd hnone hne
  · exact ⟨fields, expires_at, hget, hlive, fun r hr => hentries.lookup hr, hcount⟩

/-- Somebody who has been reported has a last report. -/
theorem latestReports_ne_nil {uid : String} {e : Ending AliveCall Tbl PyExc Unit} (he : e ∈ log)
    (hreport : (reportOfUser rt uid e).isSome = true) : latestReports rt uid log ≠ [] := by
  induction log with
  | nil => cases he
  | cons e' log ih =>
      unfold latestReports
      cases hr : reportOfUser rt uid e' with
      | some ips => exact List.cons_ne_nil _ _
      | none =>
          rcases List.mem_cons.mp he with rfl | hmem
          · rw [hr] at hreport
            cases hreport
          · exact ih hmem

/-- **Alive reports are not lost** in the runs in which no two calls that report a common user
    overlap: within 100 seconds, the document of every user who has been reported holds the
    last report of each node and counts exactly their addresses. -/
theorem alive_reports_kept {db : Database} {c : Config AliveCall Tbl PyExc Unit}
    (hmode : KeyState "device_limit_mode" v db)
    (hnone : ∀ uid row, (db .runtime_cache).get? (aliveKey uid) = some row →
      row.live start = false)
    (hrun : Apart (AliveCall.prog rt) (within start) (AliveCall.clash rt) (.quiet ⟨db, start⟩)
      log c) (uid : String) (hreported : ∃ e ∈ log, (reportOfUser rt uid e).isSome = true) :
    AliveKept rt start (aliveMode rt v) uid (latestReports rt uid log) c.state.db := by
  have hkeeping : AliveKeeping rt start v c.state log := by
    refine (Apart.induction (P := aliveContract rt start v) (E := AlivePost rt start v)
      (K := aliveView rt) (I := AliveKeeping rt start v) AliveCall.clash_symm
      (fun _ _ => rfl) ?_ (fun call V _ s _ => wp_handleAlive rt start v call V s) ?_ ?_ ?_ ?_ ?_
      hrun rfl ?_).1
    · exact fun s log call V hI hV => hI.inv hV
    · -- the reports of a live call's users stay
      intro call call' V r s ss log hclash hV uid huid
      rw [← hV uid huid]
      show _ = (match (if r.isOk then (call.reports rt).lookup uid else none) with
        | some ips => renew (latestReports rt uid log) call.node ips
        | none => latestReports rt uid log)
      rw [lookup_of_not_clash hclash huid, ite_self]
    · exact fun _ _ _ _ _ _ _ _ _ _ _ _ _ => trivial
    · exact fun s log d hI => ⟨hI.mode, hI.now.trans (by simp), hI.rows⟩
    · exact fun call _ s ss log _ _ _ hpost hI => hI.commit hpost
    · intro call e s ss log _ _ hI
      exact ⟨hI.mode, hI.now, hI.rows⟩
    · exact ⟨hmode, le_refl _, fun uid => Or.inl ⟨rfl, hnone uid⟩⟩
  obtain ⟨e, he, hreport⟩ := hreported
  exact (hkeeping.rows uid).kept (latestReports_ne_nil he hreport)

/-! ## §4. Reports that overlap. -/

/-- A node reports addresses of user 7. -/
def reportSeven (node_id : Int) (ips : List Json) : AliveCall where
  node := ⟨"vless", node_id, by decide⟩
  data := ⟨[("7", .arr ips)], List.nodup_singleton _⟩

def firstReport : AliveCall := reportSeven 1 [.str "192.0.2.1_a", .str "192.0.2.2_b"]

def secondReport : AliveCall := reportSeven 2 [.str "192.0.2.1_c"]

/-- One report, and then the other. -/
def reportsInTurn : List (Event AliveCall) :=
  .begin firstReport :: List.replicate 10 (.exec 0) ++
    .finish 0 :: .begin secondReport :: List.replicate 10 (.exec 0) ++ [.finish 0]

/-- Both have read the document before one of them stores it. -/
def reportsTogether : List (Event AliveCall) :=
  [.begin firstReport, .begin secondReport] ++ List.replicate 7 (.exec 0) ++
    List.replicate 7 (.exec 1) ++ List.replicate 3 (.exec 0) ++ .finish 0 ::
      List.replicate 3 (.exec 0) ++ [.finish 0]

/-- The document of user 7. -/
def documentOfSeven (db : Database) : Option Json :=
  ((db .runtime_cache).get? (aliveKey "7")).map RuntimeCacheRow.value

/-- The reports of user 7, as they are made. -/
def reportsOfSeven : List NodeReport :=
  [(secondReport.node, [.str "192.0.2.1_c"]),
    (firstReport.node, [.str "192.0.2.1_a", .str "192.0.2.2_b"])]

/-- Reports in turn: both are in the document. -/
theorem alive_reports_kept_in_turn : ∃ log c,
    Apart (AliveCall.prog Utc.bare) (within 1000) (AliveCall.clash Utc.bare)
      (.quiet ⟨Database.empty, 1000⟩) log c ∧ log.map (fun e => e.result.isOk) = [true, true] ∧
        AliveKept Utc.bare 1000 0 "7" reportsOfSeven c.state.db := by
  obtain ⟨log, c, hrun, houtcome⟩ := Apart.exists_of_steps (AliveCall.prog Utc.bare) (within 1000)
    (AliveCall.clash Utc.bare) (.quiet ⟨Database.empty, 1000⟩) reportsInTurn
    (fun log _ => (log.map fun e => e.result.isOk, latestReports Utc.bare "7" log,
      log.any fun e => (reportOfUser Utc.bare "7" e).isSome))
    (b := ([true, true], reportsOfSeven, true)) (by decide +kernel)
  obtain ⟨hok, hlatest, hany⟩ := Prod.mk.inj houtcome |>.imp_right Prod.mk.inj
  have hmode : KeyState "device_limit_mode" none Database.empty := by
    refine ⟨?_, ?_, ?_⟩
    · intro item hitem
      cases hitem
    · intro item hitem
      cases hitem
    · intro row hrow
      cases hrow
  have hnone : ∀ uid row, (Database.empty .runtime_cache).get? (aliveKey uid) = some row →
      RuntimeCacheRow.live 1000 row = false := by
    intro uid row hrow
    cases hrow
  have hkept := alive_reports_kept hmode hnone hrun "7" (List.any_eq_true.mp hany)
  rw [hlatest] at hkept
  exact ⟨log, c, hrun, hok, hkept⟩

/-- **A report that overlaps with another is lost**: both calls have committed, and the
    document holds the second one alone. -/
theorem overlapping_report_lost : ∃ log c,
    Apart (AliveCall.prog Utc.bare) (within 1000) (fun _ _ => false)
      (.quiet ⟨Database.empty, 1000⟩) log c ∧ log.map (fun e => e.result.isOk) = [true, true] ∧
        latestReports Utc.bare "7" log = reportsOfSeven ∧
          ¬AliveKept Utc.bare 1000 0 "7" reportsOfSeven c.state.db := by
  obtain ⟨log, c, hrun, houtcome⟩ := Apart.exists_of_steps (AliveCall.prog Utc.bare) (within 1000)
    (fun _ _ => false) (.quiet ⟨Database.empty, 1000⟩) reportsTogether
    (fun log c => (log.map fun e => e.result.isOk, latestReports Utc.bare "7" log,
      documentOfSeven c.state.db))
    (b := ([true, true], reportsOfSeven, some (.obj [
      ("vless2", aliveEntry [.str "192.0.2.1_c"] 1000), ("alive_ip", .int 1)])))
    (by decide +kernel)
  obtain ⟨hok, hlatest, hdocument⟩ := Prod.mk.inj houtcome |>.imp_right Prod.mk.inj
  refine ⟨log, c, hrun, hok, hlatest, ?_⟩
  rintro ⟨fields, expires_at, hget, -, hreports, -⟩
  unfold documentOfSeven at hdocument
  rw [hget] at hdocument
  cases hdocument
  obtain ⟨t, hfirst⟩ := hreports _ (List.mem_cons_of_mem _ List.mem_cons_self)
  have hnone : Json.lookup [("vless2", aliveEntry [.str "192.0.2.1_c"] 1000),
      ("alive_ip", .int 1)] firstReport.node.key = none := by decide
  rw [hnone] at hfirst
  cases hfirst

end PyBoard
