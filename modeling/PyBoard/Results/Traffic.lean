/-
  PyBoard.Results.Traffic — no reported byte is lost or counted twice.

  In every interleaving of reports and flushes, each of which commits or rolls back,
  the traffic of a user (credited, or in one of the two stages of the cache) grows by
  exactly what the committed reports say (`traffic_conserved`).  A flush that commits
  after it has moved something leaves no row of the stage `processing`
  (`flush_leaves_nothing`).
-/
import PyBoard.Specs.Traffic

namespace PyBoard

open Relational

/-- The server, for the transactions on the traffic cache. -/
abbrev TrafficServer := Config TrafficCall Tbl PyExc Unit

/-- Interleaved runs of these transactions. -/
abbrev TrafficRuns : TrafficServer → TrafficServer → Prop := Reaches TrafficCall.prog Cond.any

/-- What the commits have reported for the user. -/
def reportedBy (dir : Direction) (user_id : Int) (commits : List (Commit TrafficCall Tbl)) : Int :=
  (commits.map fun cm => cm.label.reported dir user_id).sum

/-- **Traffic is conserved** in every run of reports and flushes. -/
theorem traffic_conserved {db : Database} {now : Int} {c : TrafficServer}
    (hrun : TrafficRuns (Config.quiet ⟨db, now⟩) c) {user_id : Int}
    (huser : ((db .users).get? user_id).isSome = true) (dir : Direction) :
    ((c.state.db .users).get? user_id).isSome = true ∧
      trafficOf dir c.state.db user_id
        = trafficOf dir db user_id + reportedBy dir user_id c.commits := by
  refine hrun.state_induction (C := trafficContract)
    (P := fun s cs => ((s.db .users).get? user_id).isSome = true ∧
      trafficOf dir s.db user_id = trafficOf dir db user_id + reportedBy dir user_id cs)
    (fun c _ => traffic_keeps c) (.quiet trivial) ⟨huser, ?_⟩ (fun _ _ _ _ h => h) ?_
  · exact (add_zero _).symm
  · rintro l s ss cs - - hg ⟨hsome, htotal⟩
    refine ⟨(hg.users user_id).trans hsome, ?_⟩
    rw [State.commit_db, hg.conserved dir user_id hsome, htotal, reportedBy, reportedBy,
      List.map_cons, List.sum_cons]
    ring

/-- **A flush takes all of its batch**: when it commits it has written nothing, or it leaves
    no row of the stage `processing`. -/
theorem flush_leaves_nothing {db : Database} {now : Int} {c : TrafficServer}
    (hrun : TrafficRuns (Config.quiet ⟨db, now⟩) c) {cm : Commit TrafficCall Tbl}
    (hcm : cm ∈ c.commits) {granted : Bool} (hlabel : cm.label = .trafficUpdate granted) :
    cm.session.ws = [] ∨
      ∀ user_id, (cm.after.db .traffic_cache).get? (.processing, user_id) = none := by
  have h := hrun.state_induction (C := trafficContract)
    (P := fun _ cs => ∀ cm ∈ cs, TrafficGuar cm.label cm.before cm.session)
    (fun c _ => traffic_keeps c) (.quiet trivial) (fun _ h => by cases h) (fun _ _ _ _ h => h) ?_
  · exact (h cm hcm).flushed granted hlabel
  · intro l s ss cs _ _ hg hcs cm hcm
    rcases List.mem_cons.mp hcm with rfl | hcm
    · exact hg
    · exact hcs cm hcm

/-- A user, with traffic that an earlier flush has left behind. -/
def leftBehind : Database
  | .users => ⟨[{ id := 1, email := "a@example.com", password := "", token := "", uuid := "",
                  u := 5 }], by decide⟩
  | .traffic_cache => ⟨[{ stage := .processing, user_id := 1, u := 10, d := 1 }], by decide⟩
  | _ => Table.empty

/-- Upload 100 and download 7 of user 1, at the rate 1.5. -/
def oneReport : TrafficCall := .increment ⟨[(1, 100, 7)], by decide⟩ (.finite 15 (-1))

/-- Is everything over, and the upload of user 1: credited, and in the two stages. -/
def TrafficServer.uploads (c : TrafficServer) : Bool × Int × Int × Int :=
  (c.txs.isEmpty, (c.state.db .users).valueAt (User.traffic .upload) (1 : Int),
    cached .upload c.state.db .active 1, cached .upload c.state.db .processing 1)

/-- A flush of what was left behind, a report and a flush that does not get the lock
    meanwhile, and another flush. -/
theorem traffic_conserved_leftBehind : ∃ c : TrafficServer,
    TrafficRuns (Config.quiet ⟨leftBehind, 1700000000⟩) c ∧ c.uploads = (true, 165, 0, 0) ∧
      trafficOf .upload c.state.db 1
        = trafficOf .upload leftBehind 1 + reportedBy .upload 1 c.commits := by
  obtain ⟨c, hc, huploads⟩ := Option.map_eq_some_iff.mp
    (by decide +kernel : ((Config.quiet ⟨leftBehind, 1700000000⟩ : TrafficServer).steps
      TrafficCall.prog Cond.any ([.begin (.trafficUpdate true)] ++ List.replicate 5 (.exec 0) ++
        [.begin oneReport, .exec 1, .begin (.trafficUpdate false), .exec 2, .finish 2,
          .finish 1] ++ List.replicate 7 (.exec 0) ++ [.finish 0, .begin (.trafficUpdate true)] ++
        List.replicate 16 (.exec 0) ++ [.finish 0])).map TrafficServer.uploads
          = some (true, 165, 0, 0))
  have hrun : TrafficRuns (Config.quiet ⟨leftBehind, 1700000000⟩) c := .of_steps (.refl _) hc
  exact ⟨c, hrun, huploads, (traffic_conserved hrun (by decide) .upload).2⟩

end PyBoard
