/-
  PyBoard.Results.Knowledge — what a page shows of gated text.

  The text between an access mark and its matching end is for readers with a subscription.
  To follow where the characters of a body go, each is marked with whether it is gated.

  Main results:
    * `hasSubscribe_readerContext` — what the page takes for a subscription is a login.
    * `gatedText_withheld_iff` — when nothing gated is rendered.
-/
import PyBoard.Python.Utc
import PyBoard.Services.Knowledge
import PyBoard.Specs.Alone

namespace PyBoard.KnowledgeService

open Relational

variable {rt : Runtime} {fm : Formats} {s : State Tbl} {ss : Session Tbl}

/-! ## §1. Gated text. -/

/-- A text without access marks. -/
def Unmarked (l : List Char) : Prop := ¬accessStart <:+: l ∧ ¬accessEnd <:+: l

/-- A text whose access marks match. -/
inductive Balanced : List Char → Prop
  | plain {l : List Char} (h : Unmarked l) : Balanced l
  | gate {a m b : List Char} (h : Unmarked a) (hm : Balanced m) (hb : Balanced b) :
      Balanced (a ++ (accessStart ++ (m ++ (accessEnd ++ b))))

/-- `gated` stands in the body between a start mark and the end mark that matches it. -/
structure GatedIn (body pre gated post : List Char) : Prop where
  eq : body = pre ++ (accessStart ++ (gated ++ (accessEnd ++ post)))
  balanced : Balanced gated

/-- The characters of a text, marked. -/
def marked (gated : Bool) (l : List Char) : List (Char × Bool) := l.map fun c => (c, gated)

/-- A body, with the characters of one gated text marked. -/
def markedBody (pre gated post : List Char) : List (Char × Bool) :=
  marked false pre ++ (marked false accessStart ++ (marked true gated ++
    (marked false accessEnd ++ marked false post)))

/-- No character of a gated text is rendered. -/
def Withheld (has_subscribe : Bool) (body : List Char) : Prop :=
  ∀ pre gated post, GatedIn body pre gated post →
    ∀ x ∈ visibleBody Prod.fst has_subscribe (markedBody pre gated post), x.2 = false

/-- The marks do not change what is rendered. -/
theorem map_visibleBody_markedBody {has_subscribe : Bool} {body pre gated post : List Char}
    (h : GatedIn body pre gated post) :
    (visibleBody Prod.fst has_subscribe (markedBody pre gated post)).map Prod.fst =
      visibleBody id has_subscribe body := by
  have hfst : ∀ (b : Bool) (l : List Char), (marked b l).map Prod.fst = l := by
    intro b l
    unfold marked
    rw [List.map_map]
    exact List.map_id l
  have hbody : (markedBody pre gated post).map Prod.fst = body := by
    unfold markedBody
    simp only [List.map_append, hfst, h.eq]
  unfold visibleBody
  cases has_subscribe with
  | true => exact hbody
  | false =>
      have hmap := @Between.map_removeBetween Char Char (Char × Bool) _ id accessStart accessEnd
        Prod.fst (markedBody pre gated post)
      rw [hbody] at hmap
      exact hmap.symm

/-- The access marks are told apart, and begin nowhere else. -/
theorem accessMarks : Between.Marks '<' accessStart accessEnd where
  starts := ⟨"!--access start-->".toList, by decide, by decide⟩
  stops := ⟨"!--access end-->".toList, by decide, by decide⟩
  apart := by decide

/-- What a gated text has to be, so that nothing of it is rendered. -/
def Hidden (has_subscribe : Bool) (gated : List Char) : Prop :=
  if has_subscribe then gated = [] else Between.Seamless accessStart accessEnd gated

/-- One gated text. -/
theorem gatedText_hidden_iff (has_subscribe : Bool) (pre gated post : List Char) :
    (∀ x ∈ visibleBody Prod.fst has_subscribe (markedBody pre gated post), x.2 = false) ↔
      Hidden has_subscribe gated := by
  have hmarked : ∀ (b : Bool) (l : List Char), ∀ x ∈ marked b l, x.2 = b := by
    intro b l x hx
    obtain ⟨c, -, rfl⟩ := List.mem_map.mp hx
    rfl
  unfold visibleBody Hidden
  cases has_subscribe with
  | true =>
      constructor
      · intro hall
        by_contra hne
        obtain ⟨c, l, hl⟩ := List.exists_cons_of_ne_nil hne
        have hmem : (c, true) ∈ markedBody pre gated post := by
          unfold markedBody marked
          simp [hl]
        cases hall _ hmem
      · intro hempty x hx
        rw [if_pos rfl] at hempty hx
        unfold markedBody marked at hx
        rw [hempty] at hx
        simp only [List.mem_append, List.mem_map, List.map_nil, List.not_mem_nil, false_or] at hx
        obtain ⟨c, -, rfl⟩ | ⟨c, -, rfl⟩ | ⟨c, -, rfl⟩ | ⟨c, -, rfl⟩ := hx <;> rfl
  | false =>
      have hmap : ∀ (b : Bool) (l : List Char), (marked b l).map Prod.fst = l := by
        intro b l
        unfold marked
        rw [List.map_map]
        exact List.map_id l
      have hplain : ∀ l, ∀ x ∈ marked false l, ¬x.2 = true := by
        intro l x hx
        rw [hmarked false l x hx]
        decide
      have hpost : ∀ x ∈ marked false accessEnd ++ marked false post, ¬x.2 = true := by
        intro x hx
        cases List.mem_append.mp hx with
        | inl hx => exact hplain _ x hx
        | inr hx => exact hplain _ x hx
      have hiff := Between.removeBetween_hides_iff accessMarks (hmap false accessStart)
        (hmap false accessEnd) (hplain pre) (hmarked true gated) hpost
      rw [hmap] at hiff
      simpa [markedBody] using hiff

/-! ## §2. The reader. -/

/-- The account of the login, if it still exists. -/
def account (s : State Tbl) (current_user : Option Int) : Option User :=
  current_user.bind fun user_id => (s.db .users).get? user_id

/-- A reader who is not logged in, or whose subscription is not available. -/
def Unavailable (s : State Tbl) (current_user : Option Int) : Prop :=
  ∀ user, account s current_user = some user → SubscribeService.isAvailable s.now user = false

/-- An address always ends with its token. -/
theorem buildSubscribeUrl_ne_empty {user : User} {token_bytes : List UInt8} {url : String}
    {ss' : Session Tbl}
    (h : (SubscribeService.buildSubscribeUrl rt fm user token_bytes).run s ss = (.ok url, ss')) :
    url ≠ "" := by
  unfold SubscribeService.buildSubscribeUrl at h
  obtain ⟨_, _, -, h⟩ := Prog.run_bind_ok h
  obtain ⟨path, _, -, h⟩ := Prog.run_bind_ok h
  obtain ⟨token, _, -, h⟩ := Prog.run_bind_ok h
  obtain ⟨base_url, _, -, h⟩ := Prog.run_bind_ok h
  injection (congrArg Prod.fst h) with hurl
  intro hempty
  rw [hempty] at hurl
  have hlist := congrArg String.toList hurl
  simp at hlist

/-- **What the page takes for a subscription is a login.** -/
theorem hasSubscribe_readerContext {current_user : Option Int} {token_bytes : List UInt8}
    {context : JsonDict}
    (h : (readerContext rt fm current_user token_bytes).run s Session.fresh = (.ok context, ss)) :
    hasSubscribe context = (account s current_user).isSome := by
  unfold readerContext SettingService.Cached.getStr at h
  obtain ⟨ss₁, hget, honly, -⟩ := run_getCached_alone rt (s := s) CacheOnly.fresh "app_name"
  have husers : s.view ss₁ .users = s.db .users := honly.view (by decide)
  rw [Prog.bind_eq, Prog.bind_eq, Prog.bind_assoc, Prog.run_bind, hget] at h
  cases htext : settingText rt s Session.fresh "app_name" with
  | error e =>
      rw [htext] at h
      cases h
  | ok app_name =>
      rw [htext] at h
      dsimp only [Prog.pure_eq, Prog.bind] at h
      cases current_user with
      | none =>
          cases h
          rfl
      | some user_id =>
          have hfind : ∀ f : Option User → Db JsonDict,
              ((UserRepository.getById user_id).bind f).run s ss₁ =
                (f ((s.db .users).get? user_id)).run s ss₁ := by
            intro f
            rw [← husers]
            rfl
          dsimp only [Prog.bind_eq] at h
          rw [hfind] at h
          unfold account
          rw [Option.bind_some]
          cases huser : (s.db .users).get? user_id with
          | none =>
              rw [huser] at h
              cases h
              rfl
          | some user =>
              rw [huser] at h
              dsimp only at h
              obtain ⟨url, _, hbuild, h⟩ := Prog.run_bind_ok h
              have hne := buildSubscribeUrl_ne_empty hbuild
              injection (congrArg Prod.fst h) with hcontext
              rw [← hcontext]
              show (Json.str url).truthy = true
              simpa [Json.truthy] using hne

/-! ## §3. The page. -/

/-- What is asked of the gated texts of a body: nothing is left of a nested gate, or a reader
    with an account has nothing to see. -/
def HidesGates (logged_in : Bool) (body : List Char) : Prop :=
  ∀ pre gated post, GatedIn body pre gated post → Hidden logged_in gated

/-- **When a page withholds the gated text**: to a reader without a login where no gate is
    nested but seamlessly, to a reader with one where there is nothing to withhold. -/
theorem gatedText_withheld_iff {jinja : Jinja} {knowledge_id : Int} {knowledge answer : Knowledge}
    {current_user : Option Int} {token_bytes : List UInt8} {ss' : Session Tbl} {context : JsonDict}
    (hcontext : (readerContext rt fm current_user token_bytes).run s Session.fresh =
      (.ok context, ss))
    (hanswer : (getKnowledge rt fm jinja knowledge_id (some knowledge) current_user
      token_bytes).run s Session.fresh = (.ok answer, ss')) :
    jinja (String.ofList (visibleBody id (hasSubscribe context) knowledge.body.toList))
      (knowledgeContext rt fm context) = .ok answer.body ∧
    ((Unavailable s current_user → Withheld (hasSubscribe context) knowledge.body.toList) ↔
      (Unavailable s current_user →
        HidesGates (account s current_user).isSome knowledge.body.toList)) := by
  constructor
  · unfold getKnowledge at hanswer
    rw [Prog.bind_eq, Prog.run_bind, hcontext] at hanswer
    dsimp only [getPublic, renderBody] at hanswer
    cases hbody : jinja (String.ofList (visibleBody id (hasSubscribe context)
        knowledge.body.toList)) (knowledgeContext rt fm context) with
    | error e =>
        rw [hbody] at hanswer
        cases hanswer
    | ok body =>
        rw [hbody] at hanswer
        cases hanswer
        rfl
  · rw [hasSubscribe_readerContext hcontext]
    refine imp_congr_right fun _ => ?_
    unfold Withheld HidesGates
    refine forall_congr' fun pre => forall_congr' fun gated => forall_congr' fun post =>
      imp_congr_right fun _ => gatedText_hidden_iff _ pre gated post

/-! A reader whose account has no plan, and a nested gate. -/

def planless : User :=
  { id := 1, email := "a@b.c", password := "x", token := "t", uuid := "u", expired_at := none }

def planlessState : State Tbl where
  db := Database.empty.apply [.put Tbl.users planless]
  now := 1700000000

def gatedEntry : Knowledge where
  id := 1
  language := "zh-CN"
  category := "client"
  title := "Template"
  body := "<!--access start-->x<!--access end-->"

def nestedEntry : Knowledge :=
  { gatedEntry with
    body := "<!--access start-->a<!--access start-->b<!--access end-->c<!--access end-->" }

/-- The templates of these entries render as they are. -/
def plainJinja : Jinja := fun template _ => .ok template

/-- The body that is answered to a reader. -/
def answeredBody (entry : Knowledge) (current_user : Option Int) : Except PyExc String :=
  ((getKnowledge Utc.bare plainFormats plainJinja 1 (some entry) current_user []).run planlessState
    Session.fresh).1.map Knowledge.body

theorem gated_x : GatedIn gatedEntry.body.toList [] "x".toList [] :=
  ⟨by decide +kernel, .plain ⟨by decide +kernel, by decide +kernel⟩⟩

theorem gated_nested : GatedIn nestedEntry.body.toList []
    "a<!--access start-->b<!--access end-->c".toList [] where
  eq := by decide +kernel
  balanced := by
    have ha : Unmarked ['a'] := ⟨by decide +kernel, by decide +kernel⟩
    have hb : Unmarked ['b'] := ⟨by decide +kernel, by decide +kernel⟩
    have hc : Unmarked ['c'] := ⟨by decide +kernel, by decide +kernel⟩
    exact .gate ha (.plain hb) (.plain hc)

/-- The reader without a plan is shown everything, and one without a login what follows the
    inner gate. -/
theorem gatedText_shown : Unavailable planlessState (some 1) ∧
    answeredBody gatedEntry (some 1) = .ok gatedEntry.body ∧
    ¬Withheld true gatedEntry.body.toList ∧
    Unavailable planlessState none ∧
    answeredBody nestedEntry none = .ok "c<!--access end-->" ∧
    ¬Withheld false nestedEntry.body.toList := by
  refine ⟨?_, by decide +kernel, ?_, ?_, by decide +kernel, ?_⟩
  · intro user huser
    cases huser
    decide +kernel
  · intro h
    have hgated := (gatedText_hidden_iff true _ _ _).mp (h _ _ _ gated_x)
    unfold Hidden at hgated
    rw [if_pos rfl] at hgated
    cases hgated
  · intro user huser
    cases huser
  · intro h
    have hgated := (gatedText_hidden_iff false _ _ _).mp (h _ _ _ gated_nested)
    obtain hnil | hprefix := hgated ("a<!--access start-->b".toList) ("c".toList)
        (by decide +kernel)
    · cases hnil
    · revert hprefix
      decide +kernel

/-- A reader without a login is shown nothing of one gated text that has no marks. -/
theorem gatedText_withheld_iff_guest :
    (Unavailable planlessState none → Withheld false gatedEntry.body.toList) ↔
      (Unavailable planlessState none → HidesGates false gatedEntry.body.toList) := by
  have hcontext : (readerContext Utc.bare plainFormats none []).run planlessState Session.fresh =
      (.ok [("siteName", .str "PyBoard")],
        ((readerContext Utc.bare plainFormats none []).run planlessState Session.fresh).2) := rfl
  have hanswer : (getKnowledge Utc.bare plainFormats plainJinja 1 (some gatedEntry) none []).run
      planlessState Session.fresh = (.ok { gatedEntry with body := "" },
        ((readerContext Utc.bare plainFormats none []).run planlessState Session.fresh).2) := rfl
  exact (gatedText_withheld_iff hcontext hanswer).2

end PyBoard.KnowledgeService
