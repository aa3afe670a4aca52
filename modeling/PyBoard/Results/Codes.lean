/-
  PyBoard.Results.Codes — the codes of coupons, gift cards and invite codes.

  A code is looked up before it is stored, and nothing else keeps the codes apart: they
  stay unique in the runs in which requests that may store one code do not overlap
  (`codes_stay_unique`).  Two requests that overlap may both find the code unused, and
  every look-up of it raises from then on (`overlapping_creations_share_code`).
-/
import PyBoard.Python.Utc
import PyBoard.Specs.Codes

namespace PyBoard

open Relational

variable {rt : Runtime}

/-! ## §1. Unique codes. -/

/-- No two coupons, no two gift cards and no two invite codes carry the same code. -/
def CodesUnique (db : Database) : Prop := ∀ k : CodeKind, Tagged k.code db

/-- The look-ups by code. -/
def CodeKind.lookUps : (k : CodeKind) → String → List (Db (Option (Schema.Row k.tbl)))
  | coupon, code => [CouponRepository.getByCode code]
  | giftcard, code =>
      [GiftcardRepository.getByCode code, GiftcardRepository.getByCodeForUpdate code]
  | invite, code => [InviteCodeRepository.getByCode code, InviteCodeRepository.getActiveByCode code]

/-- Every look-up by code answers. -/
def CodesFound (s : State Tbl) : Prop :=
  ∀ (k : CodeKind) (code : String), ∀ lookUp ∈ k.lookUps code,
    ∃ found ss, lookUp.run s Session.fresh = (.ok found, ss)

variable {s : State Tbl} {ss : Session Tbl} {k : CodeKind} {takes : String → Prop}

/-- At most one row is found. -/
theorem scalarOneOrNone_of_tagged {t : Tbl} {tag : t.Row → String} (h : Tagged tag s.db)
    {p : t.Row → Bool} {code : String} (hp : ∀ r, p r = true → tag r = code) (ss : Session Tbl) :
    ∃ found, (scalarOneOrNone ((s.db t).rows.filter p)).run s ss = (.ok found, ss) := by
  have hfew : ((s.db t).rows.filter p).length ≤ 1 :=
    (s.db t).length_filter_le_one fun r hr hpr r' hr' hpr' =>
      h r hr r' hr' ((hp r hpr).trans (hp r' hpr').symm)
  rw [scalarOneOrNone_of_length hfew]
  exact ⟨_, rfl⟩

/-- **Unique codes are found.** -/
theorem CodesUnique.found (h : CodesUnique s.db) : CodesFound s := by
  intro k code lookUp hmem
  cases k with
  | coupon =>
    have hone := scalarOneOrNone_of_tagged (h .coupon) (p := fun c : Coupon => c.code = code)
      (fun _ => of_decide_eq_true) Session.fresh
    rw [List.mem_singleton.mp hmem]
    exact hone.imp fun _ hrun => ⟨_, hrun⟩
  | giftcard =>
    have hone := scalarOneOrNone_of_tagged (h .giftcard) (p := fun g : Giftcard => g.code = code)
      (fun _ => of_decide_eq_true)
    rcases List.mem_cons.mp hmem with rfl | hmem
    · exact (hone Session.fresh).imp fun _ hrun => ⟨_, hrun⟩
    · rw [List.mem_singleton.mp hmem]
      exact (hone _).imp fun _ hrun => ⟨_, hrun⟩
  | invite =>
    have hone : ∀ p : InviteCode → Bool, (∀ i, p i = true → i.code = code) → ∃ found,
        (scalarOneOrNone ((s.db .invite_code).rows.filter p)).run s Session.fresh
          = (.ok found, Session.fresh) :=
      fun p hp => scalarOneOrNone_of_tagged (h .invite) hp Session.fresh
    rcases List.mem_cons.mp hmem with rfl | hmem
    · have hcode := hone (fun i : InviteCode => i.code = code) fun _ => of_decide_eq_true
      exact hcode.imp fun _ hrun => ⟨_, hrun⟩
    · rw [List.mem_singleton.mp hmem]
      have hactive := hone (fun i : InviteCode => i.code = code && i.status = 0)
        fun i hi => of_decide_eq_true (Bool.and_eq_true_iff.mp hi).1
      exact hactive.imp fun _ hrun => ⟨_, hrun⟩

/-! ## §2. One commit. -/

/-- A request leaves the other tables with codes alone. -/
theorem CodePost.avoids (h : CodePost k takes s ss) {k' : CodeKind} (hne : k' ≠ k) :
    ss.Avoids k'.tbl := by
  intro w hw htable
  rcases h.only w hw with hk | hcache
  · exact hne (CodeKind.tbl_injective (htable.symm.trans hk))
  · rw [hcache] at htable
    cases k' <;> cases htable

/-- A commit leaves a code unused that its request may not take. -/
theorem CodePost.unused (h : CodePost k takes s ss) {k' : CodeKind} {code : String}
    (hunused : Unused k'.code code s.db) (htakes : k' = k → ¬takes code) :
    Unused k'.code code (s.view ss) := by
  by_cases hk : k' = k
  · subst hk
    exact hunused.commit h.retags (htakes rfl)
  · have hkeeps : Retags k'.code (fun _ => False) s ss := .of_avoids (h.avoids hk)
    exact hunused.commit hkeeps id

/-- **The codes stay apart at a commit.** -/
theorem CodePost.unique (h : CodePost k takes s ss) (hunique : CodesUnique s.db) :
    CodesUnique (s.view ss) := by
  intro k'
  by_cases hk : k' = k
  · subst hk
    exact (hunique k').commit h.retags
  · have hkeeps : Retags k'.code (fun _ => False) s ss := .of_avoids (h.avoids hk)
    exact (hunique k').commit hkeeps

/-! ## §3. Runs. -/

namespace CodeOp

theorem clash_symm (l l' : CodeOp) : l.clash rt l' = l'.clash rt l := by
  unfold clash
  rw [Bool.eq_iff_iff]
  simp only [Bool.and_eq_true, decide_eq_true_eq, List.any_eq_true]
  constructor
  · rintro ⟨hk, code, hmem, hmem'⟩
    exact ⟨hk.symm, code, hmem', hmem⟩
  · rintro ⟨hk, code, hmem, hmem'⟩
    exact ⟨hk.symm, code, hmem', hmem⟩

/-- Requests for one table that do not clash have no code in common. -/
theorem not_mem_of_not_clash {l l' : CodeOp} (h : l.clash rt l' = false) (hk : l'.kind = l.kind)
    {code : String} (hcode : code ∈ l'.codes rt) : code ∉ l.codes rt := by
  intro hmem
  unfold clash at h
  rw [hk, decide_eq_true rfl, Bool.true_and, List.any_eq_false] at h
  exact h code hmem (decide_eq_true hcode)

end CodeOp

/-- The answers of the requests on codes, the newest first. -/
abbrev CodeLog := List (Ending CodeOp Tbl PyExc Unit)

/-- **Codes stay unique** in every run in which requests that may give one code to rows of one
    table do not overlap, and every look-up by code answers. -/
theorem codes_stay_unique {db : Database} {now : Int} {log : CodeLog}
    {c : Config CodeOp Tbl PyExc Unit} (hunique : CodesUnique db)
    (hrun : Apart (CodeOp.prog rt) Cond.any (CodeOp.clash rt) (.quiet ⟨db, now⟩) log c) :
    CodesUnique c.state.db ∧ CodesFound c.state := by
  have hkept : CodesUnique c.state.db := by
    refine (Apart.induction (V := Unit) (P := fun l _ => codeContract rt l)
      (E := fun l _ r s ss => ∀ a, r = .ok a → CodePost l.kind (· ∈ l.codes rt) s ss)
      (K := fun _ _ _ => True) (I := fun s _ => CodesUnique s.db)
      CodeOp.clash_symm (fun _ _ => rfl) (fun _ _ _ _ _ _ => trivial)
      (fun l _ _ s _ => l.spec rt s) (fun _ _ _ _ _ _ _ _ _ => trivial) ?_
      (fun _ _ _ h => h) ?_ (fun _ _ _ _ _ _ _ h => h) hrun rfl hunique).1
    · -- a commit does not take the codes of the requests that overlap with it
      intro l l' _ a s ss log ids hclash _ _ _ hpost code hcode hunused
      exact (hpost () trivial a rfl).unused hunused fun hk =>
        CodeOp.not_mem_of_not_clash hclash hk hcode
    · intro l a s ss log _ _ _ hpost hunique
      exact (hpost () trivial a rfl).unique hunique
  exact ⟨hkept, hkept.found⟩

/-- A request for a row with the code "X", in each table. -/
def creating (id : Int) : CodeKind → CodeOp
  | .coupon => .couponCreate id (fun _ => "")
      { code := some "X", name := "", type := 1, value := 1, started_at := 0, ended_at := 1 }
  | .giftcard => .giftcardCreate id (fun _ => "")
      { code := some "X", name := "", type := 1, value := some 1, started_at := 0, ended_at := 1 }
  | .invite => .adminCreateInviteCode id (fun _ => "") { user_id := some 1, code := some "X" }

/-- One user, who owns the invite codes, and no codes. -/
def noCodes : Database
  | .users => ⟨[{ id := 1, email := "a@example.com", password := "", token := "a", uuid := "" }],
      nodup_one⟩
  | _ => Table.empty

theorem noCodes_unique : CodesUnique noCodes := by
  intro k r hr
  cases k <;> cases hr

/-- Do the look-ups of the code "X" in the table answer? -/
def answered (k : CodeKind) (s : State Tbl) : Bool :=
  (k.lookUps "X").all fun lookUp => (lookUp.run s Session.fresh).1.isOk

theorem CodesFound.answered {s : State Tbl} (h : CodesFound s) (k : CodeKind) :
    answered k s = true := by
  refine List.all_eq_true.mpr fun lookUp hmem => ?_
  obtain ⟨found, ss, hrun⟩ := h k "X" lookUp hmem
  rw [hrun]
  rfl

/-- Two requests for the code, one after the other. -/
def creatingTwice (k : CodeKind) (statements : Nat) : List (Event CodeOp) :=
  .begin (creating 1 k) :: List.replicate statements (.exec 0) ++ [.finish 0] ++
    .begin (creating 2 k) :: List.replicate (statements - 1) (.exec 0) ++ [.finish 0]

/-- A second coupon with the code is refused. -/
theorem codes_stay_unique_twice : ∃ (log : CodeLog) (c : Config CodeOp Tbl PyExc Unit),
    Apart (CodeOp.prog Utc.bare) Cond.any (CodeOp.clash Utc.bare) (.quiet ⟨noCodes, 0⟩) log c ∧
      log.map (fun e => e.result.isOk) = [false, true] ∧ CodesUnique c.state.db ∧
        CodesFound c.state := by
  obtain ⟨log, c, hrun, hlog⟩ := Apart.exists_of_steps (CodeOp.prog Utc.bare) Cond.any
    (CodeOp.clash Utc.bare) (.quiet ⟨noCodes, 0⟩) (creatingTwice .coupon 2)
    (fun log _ => log.map fun e => e.result.isOk) (b := [false, true]) (by decide +kernel)
  exact ⟨log, c, hrun, hlog, codes_stay_unique noCodes_unique hrun⟩

/-- Two requests for the code that both look it up before one of them has committed. -/
def creatingTogether (k : CodeKind) (statements : Nat) : List (Event CodeOp) :=
  .begin (creating 1 k) :: .begin (creating 2 k) ::
    List.replicate statements (.exec 0) ++ List.replicate statements (.exec 1) ++
      [.finish 0, .finish 0]

/-- **Requests that overlap store one code twice**, in every one of the tables, and its
    look-ups raise. -/
theorem creations_share_code (k : CodeKind) :
    ∃ (log : CodeLog) (c : Config CodeOp Tbl PyExc Unit), CodesUnique noCodes ∧
      Apart (CodeOp.prog Utc.bare) Cond.any (fun _ _ => false) (.quiet ⟨noCodes, 0⟩) log c ∧
        (c.state.db k.tbl).rows.map k.code = ["X", "X"] ∧ ¬CodesUnique c.state.db ∧
          ¬CodesFound c.state := by
  obtain ⟨log, c, hrun, hcodes⟩ := Apart.exists_of_steps (CodeOp.prog Utc.bare) Cond.any
    (fun _ _ => false) (.quiet ⟨noCodes, 0⟩)
    (creatingTogether k (match k with | .invite => 3 | _ => 2))
    (fun _ c => ((c.state.db k.tbl).rows.map k.code, answered k c.state))
    (b := (["X", "X"], false)) (by cases k <;> decide +kernel)
  obtain ⟨hrows, hanswered⟩ := Prod.mk.inj hcodes
  have hfound : ¬CodesFound c.state := by
    intro hfound
    rw [hfound.answered k] at hanswered
    cases hanswered
  exact ⟨log, c, noCodes_unique, hrun, hrows, fun hunique => hfound hunique.found, hfound⟩

/-- Two coupons with the code `X`. -/
theorem overlapping_creations_share_code :
    ∃ (log : CodeLog) (c : Config CodeOp Tbl PyExc Unit), CodesUnique noCodes ∧
      Apart (CodeOp.prog Utc.bare) Cond.any (fun _ _ => false) (.quiet ⟨noCodes, 0⟩) log c ∧
        (c.state.db CodeKind.coupon.tbl).rows.map CodeKind.coupon.code = ["X", "X"] ∧
          ¬CodesUnique c.state.db ∧ ¬CodesFound c.state :=
  creations_share_code .coupon

end PyBoard
