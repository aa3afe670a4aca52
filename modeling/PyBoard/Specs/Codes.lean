/-
  PyBoard.Specs.Codes — what the operations on codes store.

  An operation on coupons, gift cards or invite codes has looked up every code that it stores
  in a new row or as the new code of a row (`codeOp_spec`), and it has found the code
  unused.

  Main result: `CodeOp.spec`.
-/
import PyBoard.Relational.Apart
import PyBoard.Relational.Checked
import PyBoard.Services.Codes
import PyBoard.Specs.Steady

namespace PyBoard

open Relational

/-! ## §1. Operations. -/

/-- The tables with codes. -/
inductive CodeKind
  | coupon | giftcard | invite
  deriving DecidableEq

def CodeKind.tbl : CodeKind → Tbl
  | coupon => .coupon
  | giftcard => .giftcard
  | invite => .invite_code

/-- The code of a row. -/
def CodeKind.code : (k : CodeKind) → Schema.Row k.tbl → String
  | coupon => Coupon.code
  | giftcard => Giftcard.code
  | invite => InviteCode.code

instance : (k : CodeKind) → DecidableEq k.tbl.Row
  | .coupon => inferInstanceAs (DecidableEq Coupon)
  | .giftcard => inferInstanceAs (DecidableEq Giftcard)
  | .invite => inferInstanceAs (DecidableEq InviteCode)

def CodeKind.codeExists : CodeKind → String → Db Bool
  | coupon => CouponRepository.codeExists
  | giftcard => GiftcardRepository.codeExists
  | invite => InviteCodeRepository.codeExists

theorem CodeKind.tbl_injective {k k' : CodeKind} (h : k.tbl = k'.tbl) : k = k' := by
  cases k <;> cases k' <;> first | rfl | cases h

/-- A request that creates, updates or generates coupons, gift cards or invite codes. -/
inductive CodeOp
  | couponCreate (id : Int) (draws : Draws) (data : CouponService.CouponCreate)
  | couponUpdate (coupon_id : Int) (data : CouponService.CouponUpdate)
  | couponGenerate (ids : Nat → Int) (draws : Nat → Draws) (data : CouponService.CouponCreate)
      (generate_count : Int)
  | giftcardCreate (id : Int) (draws : Draws) (data : GiftcardService.GiftcardCreate)
  | giftcardUpdate (giftcard_id : Int) (data : GiftcardService.GiftcardUpdate)
  | giftcardGenerate (ids : Nat → Int) (draws : Nat → Draws)
      (data : GiftcardService.GiftcardCreate) (generate_count : Int)
  | createForUser (id : Int) (draws : Draws) (user_id : Int)
  | adminCreateInviteCode (id : Int) (draws : Draws) (data : InviteService.InviteCodeCreate)
  | adminUpdateInviteCode (invite_id : Int) (data : InviteService.InviteCodeUpdate)

namespace CodeOp

variable (rt : Runtime)

/-- The transaction of a request. -/
def prog : CodeOp → Db Unit
  | couponCreate id draws data => do
      let _item ← CouponService.create rt id draws data
      return ()
  | couponUpdate coupon_id data => do
      let _item ← CouponService.update rt coupon_id data
      return ()
  | couponGenerate ids draws data generate_count => do
      let _items ← CouponService.generate rt ids draws data generate_count
      return ()
  | giftcardCreate id draws data => do
      let _item ← GiftcardService.create rt id draws data
      return ()
  | giftcardUpdate giftcard_id data => do
      let _item ← GiftcardService.update rt giftcard_id data
      return ()
  | giftcardGenerate ids draws data generate_count => do
      let _items ← GiftcardService.generate ids draws data generate_count
      return ()
  | createForUser id draws user_id => do
      let _item ← InviteService.createForUser rt id draws user_id
      return ()
  | adminCreateInviteCode id draws data => do
      let _item ← InviteService.adminCreateInviteCode rt id draws data
      return ()
  | adminUpdateInviteCode invite_id data => do
      let _item ← InviteService.adminUpdateInviteCode invite_id data
      return ()

/-- The table of a request. -/
def kind : CodeOp → CodeKind
  | couponCreate .. | couponUpdate .. | couponGenerate .. => .coupon
  | giftcardCreate .. | giftcardUpdate .. | giftcardGenerate .. => .giftcard
  | createForUser .. | adminCreateInviteCode .. | adminUpdateInviteCode .. => .invite

/-- The codes that are sent, or else those that may be drawn. -/
def sentOrDrawn (code : Option String) (draws : Draws) : List String :=
  match givenCode code with
  | some code => [code]
  | none => draws.codes

/-- The codes that a request may give to a row. -/
def codes : CodeOp → List String
  | couponCreate _ draws data =>
      (sentOrDrawn data.code draws).filterMap fun code =>
        (CouponService.normalizeCode rt code).toOption
  | couponUpdate _ data =>
      data.code.join.toList.filterMap fun code => (CouponService.normalizeCode rt code).toOption
  | couponGenerate _ draws _ generate_count =>
      (List.range generate_count.toNat).flatMap fun round => (draws round).codes
  | giftcardCreate _ draws data =>
      (sentOrDrawn data.code draws).filterMap fun code =>
        (GiftcardService.normalizeCode rt code).toOption
  | giftcardUpdate _ data =>
      data.code.join.toList.filterMap fun code => (GiftcardService.normalizeCode rt code).toOption
  | giftcardGenerate _ draws _ generate_count =>
      (List.range generate_count.toNat).flatMap fun round => (draws round).codes
  | createForUser _ draws _ => draws.codes
  | adminCreateInviteCode _ draws data =>
      match givenCode data.code with
      | some code => [rt.upper (rt.strip code)]
      | none => draws.codes
  | adminUpdateInviteCode .. => []

/-- May two requests give one code to rows of one table? -/
def clash (l l' : CodeOp) : Bool :=
  l.kind = l'.kind && (l.codes rt).any fun code => code ∈ l'.codes rt

end CodeOp

/-! ## §2. Looking first. -/

variable {L : Type} {C : Contract L Tbl} {k : CodeKind} {takes : String → Prop} {α : Type}
  {s s' : State Tbl} {ss : Session Tbl} {rows : List (Schema.Row k.tbl)}

/-- A session that has added rows with codes which it has looked up. -/
structure Looked (k : CodeKind) (takes : String → Prop) (rows : List (Schema.Row k.tbl))
    (s : State Tbl) (ss : Session Tbl) : Prop where
  adds : Adds k.code takes rows s ss
  only : ∀ w ∈ ss.ws, w.table = k.tbl ∨ w.table = .runtime_cache

/-- What a request leaves at its end. -/
structure CodePost (k : CodeKind) (takes : String → Prop) (s : State Tbl) (ss : Session Tbl) :
    Prop where
  retags : Retags k.code takes s ss
  only : ∀ w ∈ ss.ws, w.table = k.tbl ∨ w.table = .runtime_cache

/-- The look-up of a code. -/
theorem wp_codeExists (k : CodeKind) (code : String)
    {Q : Except PyExc Bool → State Tbl → Session Tbl → Prop}
    (hfound : ∀ s', Extends C s ss s' ss [] → Q (.ok true) s' ss)
    (hfree : ∀ s', Extends C s ss s' ss [] → (∀ x ∈ (s'.view ss k.tbl).rows, k.code x ≠ code) →
      Q (.ok false) s' ss)
    (herr : ∀ e s', Extends C s ss s' ss [] → Q (.error e) s' ss) :
    wp C (k.codeExists code) Q s ss := by
  cases k with
  | coupon =>
    refine (wp_bind _ _ _ _ _).mpr (wp_selectOne (fun s' he hnone => ?_) (fun s' r he _ _ => ?_)
      fun s' he => herr _ s' he)
    · exact hfree s' he fun x hx => of_decide_eq_false (hnone x hx)
    · exact hfound s' he
  | giftcard =>
    refine (wp_bind _ _ _ _ _).mpr (wp_selectOne (fun s' he hnone => ?_) (fun s' r he _ _ => ?_)
      fun s' he => herr _ s' he)
    · exact hfree s' he fun x hx => of_decide_eq_false (hnone x hx)
    · exact hfound s' he
  | invite =>
    refine (wp_bind _ _ _ _ _).mpr (wp_select fun s' he => ?_)
    show Q (.ok !((s'.view ss .invite_code).rows.filter _).isEmpty) s' ss
    cases hrows : (s'.view ss .invite_code).rows.filter
        fun i : InviteCode => decide (i.code = code) with
    | nil =>
      refine hfree s' he fun x hx hcode => ?_
      exact List.filter_eq_nil_iff.mp hrows x hx (decide_eq_true hcode)
    | cons r rest => exact hfound s' he

/-- The rounds of `_generate_code`. -/
theorem wp_firstUnused {k : CodeKind} {detail : String} {codes : List String}
    {Q : Except PyExc String → State Tbl → Session Tbl → Prop}
    (hok : ∀ code ∈ codes, ∀ s', Extends C s ss s' ss [] →
      (∀ x ∈ (s'.view ss k.tbl).rows, k.code x ≠ code) → Q (.ok code) s' ss)
    (herr : ∀ e s' ss', Q (.error e) s' ss') :
    wp C (firstUnused k.codeExists detail codes) Q s ss := by
  induction codes generalizing s with
  | nil => exact herr _ _ _
  | cons code codes ih =>
    refine (wp_bind _ _ _ _ _).mpr (wp_codeExists k code (fun s₁ he => ?_) (fun s₁ he hfree => ?_)
      fun e s₁ _ => herr e _ _)
    · exact ih fun code' hmem s₂ he₂ => hok code' (List.mem_cons_of_mem _ hmem) s₂ (he.trans he₂)
    · exact hok code List.mem_cons_self s₁ he hfree

section

-- nobody else takes a code that the request may take
variable (hevol : ∀ ids s s', C.Evol ids s s' → ∀ c, takes c → Unused k.code c s.db →
  Unused k.code c s'.db)

include hevol

theorem Looked.rely (h : Looked k takes rows s ss) (hr : C.Rely ss.locks s s') :
    Looked k takes rows s' ss := ⟨h.adds.rely hevol hr, h.only⟩

/-- The INSERT of a row with a code that is not seen. -/
theorem Looked.wp_create (h : Looked k takes rows s ss) (row : Schema.Row k.tbl)
    (htakes : takes (k.code row)) (hfree : ∀ x ∈ (s.view ss k.tbl).rows, k.code x ≠ k.code row)
    {Q : Except PyExc Unit → State Tbl → Session Tbl → Prop}
    (hok : ∀ s' ss', C.Inv s' → Looked k takes (rows ++ [row]) s' ss' → Q (.ok ()) s' ss')
    (herr : ∀ e s' ss', Q (.error e) s' ss') : wp C (create k.tbl row) Q s ss := by
  refine (wp_bind _ _ _ _ _).mpr (h.adds.wp_insert hevol htakes hfree (fun s' ss' => ?_)
    fun s' hi hadds => ?_)
  · exact herr _ s' ss'
  · refine hok s' _ hi ⟨hadds, fun w hw => ?_⟩
    rw [Session.write_ws] at hw
    rcases List.mem_append.mp hw with hw | hw
    · exact h.only w hw
    · rw [List.mem_singleton.mp hw]
      exact Or.inl rfl

theorem Looked.wp_ensure (h : Looked k takes rows s ss) {code detail : String}
    {Q : Except PyExc Unit → State Tbl → Session Tbl → Prop}
    (hok : ∀ s', C.Inv s' → Looked k takes rows s' ss →
      (∀ x ∈ (s'.view ss k.tbl).rows, k.code x ≠ code) → Q (.ok ()) s' ss)
    (herr : ∀ e s' ss', Q (.error e) s' ss') :
    wp C (ensureUnused k.codeExists detail code) Q s ss := by
  refine (wp_bind _ _ _ _ _).mpr (wp_codeExists k code (fun s₁ _ => herr _ _ _)
    (fun s₁ he hfree => ?_) fun e s₁ _ => herr e _ _)
  exact hok s₁ he.inv (h.rely hevol he.rely) hfree

end

/-! ## §3. The end of a request. -/

/-- The request has added rows, or updated one. -/
structure Done (k : CodeKind) (takes : String → Prop) (s : State Tbl) (ss : Session Tbl) :
    Prop where
  stored : (∃ rows, Adds k.code takes rows s ss) ∨ Moves k.code takes s ss
  only : ∀ w ∈ ss.ws, w.table = k.tbl ∨ w.table = .runtime_cache

/-- A request that returns is done. -/
def CodeStored (k : CodeKind) (takes : String → Prop) (r : Except PyExc α) (s : State Tbl)
    (ss : Session Tbl) : Prop := ∀ a, r = .ok a → Done k takes s ss

theorem CodeStored.error (e : PyExc) : CodeStored k takes (.error e : Except PyExc α) s ss :=
  fun _ h => by cases h

theorem Looked.stored (h : Looked k takes rows s ss) (a : α) : CodeStored k takes (.ok a) s ss :=
  fun _ _ => ⟨Or.inl ⟨rows, h.adds⟩, h.only⟩

theorem Done.post (h : Done k takes s ss) : CodePost k takes s ss := by
  refine ⟨?_, h.only⟩
  rcases h.stored with ⟨rows, hadds⟩ | hmoves
  · exact hadds.retags
  · exact hmoves.retags

theorem code_merge (k : CodeKind) (old new cur : Schema.Row k.tbl) :
    k.code (Schema.merge old new cur) = column (k.code old) (k.code new) (k.code cur) := by
  cases k <;> rfl

section

variable (hevol : ∀ ids s s', C.Evol ids s s' → ∀ c, takes c → Unused k.code c s.db →
  Unused k.code c s'.db)

include hevol

theorem Done.rely (h : Done k takes s ss) (hr : C.Rely ss.locks s s') : Done k takes s' ss := by
  refine ⟨?_, h.only⟩
  rcases h.stored with ⟨rows, hadds⟩ | hmoves
  · exact Or.inl ⟨rows, hadds.rely hevol hr⟩
  · exact Or.inr (hmoves.rely hevol hr)

theorem Looked.wp_save (h : Looked k takes [] s ss) {old new : k.tbl.Row}
    (hcode : k.code new = k.code old ∨ (takes (k.code new) ∧ Unused k.code (k.code new) s.db))
    {Q : Except PyExc Unit → State Tbl → Session Tbl → Prop}
    (hok : ∀ s' ss', Done k takes s' ss' → Q (.ok ()) s' ss')
    (herr : ∀ e s' ss', Q (.error e) s' ss') : wp C (save k.tbl old new) Q s ss := by
  have htag : (∀ cur : k.tbl.Row, k.code (Schema.merge old new cur) = k.code cur) ∨
      ((∀ cur : k.tbl.Row, k.code (Schema.merge old new cur) = k.code new) ∧ takes (k.code new) ∧
        Unused k.code (k.code new) s.db) := by
    by_cases hsame : k.code new = k.code old
    · refine Or.inl fun cur => ?_
      rw [code_merge, hsame, column_same]
    · refine Or.inr ⟨fun cur => ?_, hcode.resolve_left hsame⟩
      rw [code_merge]
      exact if_neg (Ne.symm hsame)
  refine (wp_bind _ _ _ _ _).mpr (Moves.wp_update h.adds.avoids hevol htag
    (fun s' ss' => ?_) fun s' cur hi hmoves => ?_)
  · exact herr _ s' ss'
  · refine hok s' _ ⟨Or.inr hmoves, fun w hw => ?_⟩
    rw [Session.write_ws] at hw
    rcases List.mem_append.mp hw with hw | hw
    · exact h.only w hw
    · rw [List.mem_singleton.mp hw]
      exact Or.inl rfl

/-- **The UPDATE of a row** that keeps its code, or gets one that has been looked up. -/
theorem Looked.wp_updateRow (h : Looked k takes [] s ss) {old new : k.tbl.Row}
    (hcode : k.code new = k.code old ∨ (takes (k.code new) ∧ Unused k.code (k.code new) s.db)) :
    wp C (updateRow k.tbl old new) (CodeStored k takes) s ss := by
  have hrefresh : ∀ s ss, Done k takes s ss →
      wp C (refresh k.tbl old) (CodeStored k takes) s ss := by
    intro s ss hdone
    refine (wp_bind _ _ _ _ _).mpr (wp_get fun s' he => ?_)
    dsimp only
    split
    · exact CodeStored.error _
    · exact fun _ _ => hdone.rely hevol he.rely
  unfold updateRow whenever
  refine (wp_bind _ _ _ _ _).mpr (wp_ite (fun hne => ?_) fun _ => ?_)
  · exact h.wp_save hevol hcode hrefresh fun e s' ss' => CodeStored.error e
  · exact hrefresh s ss ⟨Or.inl ⟨[], h.adds⟩, h.only⟩

theorem Looked.wp_lookedUpCode (h : Looked k takes [] s ss)
    {normalize : String → Except PyExc String} {detail cur : String} {sent : Sent String}
    (htakes : ∀ code code', sent = some (some code) → normalize code = .ok code' → takes code')
    {Q : Except PyExc (Sent String) → State Tbl → Session Tbl → Prop}
    (hok : ∀ sent' s', Looked k takes [] s' ss →
      (∀ code, sent'.required cur = .ok code →
        code = cur ∨ (takes code ∧ Unused k.code code s'.db)) → Q (.ok sent') s' ss)
    (herr : ∀ e s' ss', Q (.error e) s' ss') :
    wp C (lookedUpCode normalize (ensureUnused k.codeExists detail) sent cur) Q s ss := by
  unfold lookedUpCode
  split
  · next code =>
    refine (wp_bind _ _ _ _ _).mpr (wp_liftExcept ?_)
    cases hcode : normalize code with
    | error e => exact herr _ _ _
    | ok code' =>
      refine (wp_bind _ _ _ _ _).mpr (wp_ite (fun _ => ?_) fun hsame => ?_)
      · refine h.wp_ensure hevol (fun s' hi' h' hfree => ?_) herr
        refine hok _ s' h' fun c hc => Or.inr ?_
        cases hc
        exact ⟨htakes _ _ rfl hcode, fun x hx => hfree x (h'.adds.mem_view.mpr (Or.inr hx))⟩
      · refine hok _ s h fun c hc => Or.inl ?_
        cases hc
        exact not_not.mp hsame
  · next hother =>
    refine hok sent s h fun c hc => Or.inl ?_
    match sent with
    | none =>
      cases hc
      rfl
    | some none => cases hc
    | some (some code) => exact absurd rfl (hother code)

end

/-- The code that is sent, or one that is drawn. -/
theorem wp_codeOr (hi : C.Inv s) {sent : Option String} {draws : Draws} {detail : String}
    {Q : Except PyExc String → State Tbl → Session Tbl → Prop}
    (hok : ∀ code ∈ CodeOp.sentOrDrawn sent draws, ∀ s', Extends C s ss s' ss [] →
      Q (.ok code) s' ss)
    (herr : ∀ e s' ss', Q (.error e) s' ss') :
    wp C (codeOr sent (firstUnused k.codeExists detail draws.codes)) Q s ss := by
  unfold CodeOp.sentOrDrawn at hok
  unfold codeOr
  cases hsent : givenCode sent with
  | some code =>
    rw [hsent] at hok
    exact hok code (List.mem_singleton_self _) s (.refl hi)
  | none =>
    rw [hsent] at hok
    exact wp_firstUnused (fun code hcode s' he _ => hok code hcode s' he) herr

/-! ## §4. Coupons. -/

section

variable {rt : Runtime}

namespace CouponService

variable (hevol : ∀ ids s s', C.Evol ids s s' → ∀ c, takes c →
  Unused CodeKind.coupon.code c s.db → Unused CodeKind.coupon.code c s'.db)

include hevol

theorem wp_create (h : Looked .coupon takes [] s ss) (hi : C.Inv s) {id : Int} {draws : Draws}
    {data : CouponCreate}
    (htakes : ∀ code ∈ (CodeOp.couponCreate id draws data).codes rt, takes code) :
    wp C (create rt id draws data) (CodeStored .coupon takes) s ss := by
  refine (wp_bind _ _ _ _ _).mpr (wp_codeOr (k := .coupon) hi (fun code hcode s₁ he => ?_)
    fun e _ _ => CodeStored.error e)
  refine (wp_bind _ _ _ _ _).mpr (wp_liftExcept ?_)
  cases hnormal : normalizeCode rt code with
  | error e => exact CodeStored.error e
  | ok code' =>
    have htake : takes code' :=
      htakes _ (List.mem_filterMap.mpr ⟨code, hcode, by rw [hnormal]; rfl⟩)
    refine (wp_bind _ _ _ _ _).mpr ((h.rely hevol he.rely).wp_ensure hevol
      (fun s₂ _ h₂ hfree => ?_) fun e _ _ => CodeStored.error e)
    refine (wp_bind _ _ _ _ _).mpr (wp_liftExcept ?_)
    cases data.validate with
    | error e => exact CodeStored.error e
    | ok _ =>
      refine (wp_bind _ _ _ _ _).mpr (h₂.wp_create hevol (data.row rt id code') htake hfree
        (fun s₃ ss₃ _ h₃ => ?_) fun e _ _ => CodeStored.error e)
      exact h₃.stored _

omit hevol in
theorem code_apply {data : CouponUpdate} {code : Sent String} {item new : Coupon}
    (h : data.apply rt code item = .ok new) : code.required item.code = .ok new.code := by
  unfold CouponUpdate.apply at h
  obtain ⟨_, -, h⟩ := except_bind_ok h
  obtain ⟨code', hcode, h⟩ := except_bind_ok h
  obtain ⟨type, -, h⟩ := except_bind_ok h
  obtain ⟨value, -, h⟩ := except_bind_ok h
  obtain ⟨shown, -, h⟩ := except_bind_ok h
  obtain ⟨started_at, -, h⟩ := except_bind_ok h
  obtain ⟨ended_at, -, h⟩ := except_bind_ok h
  injection h with h
  rw [hcode, ← h]

theorem wp_update (h : Looked .coupon takes [] s ss) {coupon_id : Int} {data : CouponUpdate}
    (htakes : ∀ code ∈ (CodeOp.couponUpdate coupon_id data).codes rt, takes code) :
    wp C (update rt coupon_id data) (CodeStored .coupon takes) s ss := by
  refine (wp_bind _ _ _ _ _).mpr (wp_get fun s₁ he => ?_)
  dsimp only
  split
  · exact CodeStored.error _
  · next item _ =>
    refine (wp_bind _ _ _ _ _).mpr ((h.rely hevol he.rely).wp_lookedUpCode hevol
      (fun code code' hsent hcode => ?_) (fun sent s₂ h₂ hsent => ?_) fun e _ _ =>
        CodeStored.error e)
    · refine htakes _ (List.mem_filterMap.mpr ⟨code, ?_, by rw [hcode]; rfl⟩)
      rw [hsent]
      exact List.mem_singleton_self code
    · refine (wp_bind _ _ _ _ _).mpr (wp_liftExcept ?_)
      split
      · refine (wp_bind _ _ _ _ _).mpr (wp_liftExcept ?_)
        cases hnew : data.apply rt sent item with
        | error e => exact CodeStored.error e
        | ok new => exact h₂.wp_updateRow hevol (hsent _ (code_apply hnew))
      · exact CodeStored.error _

theorem wp_generateRounds {ids : Nat → Int} {draws : Nat → Draws} {data : CouponCreate}
    {rounds : List Nat} (htakes : ∀ round ∈ rounds, ∀ code ∈ (draws round).codes, takes code)
    {rows : List Coupon} {s : State Tbl} {ss : Session Tbl} (h : Looked .coupon takes rows s ss) :
    wp C (generateRounds rt data ids draws rounds) (CodeStored .coupon takes) s ss := by
  induction rounds generalizing rows s ss with
  | nil => exact h.stored _
  | cons round rounds ih =>
    refine (wp_bind _ _ _ _ _).mpr (wp_firstUnused (k := .coupon) (fun code hcode s₁ he hfree => ?_)
      fun e _ _ => CodeStored.error e)
    refine (wp_bind _ _ _ _ _).mpr (wp_liftExcept ?_)
    cases data.validate with
    | error e => exact CodeStored.error e
    | ok _ =>
      refine (wp_bind _ _ _ _ _).mpr ((h.rely hevol he.rely).wp_create hevol
        (data.row rt (ids round) code) (htakes round List.mem_cons_self code hcode) hfree
        (fun s₂ ss₂ _ h₂ => ?_) fun e _ _ => CodeStored.error e)
      refine (wp_bind _ _ _ _ _).mpr (wp_mono
        (ih (fun round' hmem => htakes round' (List.mem_cons_of_mem _ hmem)) h₂) ?_)
      rintro (e | items) s₃ ss₃ h₃
      · exact CodeStored.error e
      · exact fun _ _ => h₃ items rfl

theorem wp_generate (h : Looked .coupon takes [] s ss) {ids : Nat → Int} {draws : Nat → Draws}
    {data : CouponCreate} {generate_count : Int}
    (htakes : ∀ code ∈ (CodeOp.couponGenerate ids draws data generate_count).codes rt, takes code) :
    wp C (generate rt ids draws data generate_count) (CodeStored .coupon takes) s ss := by
  refine wp_ite (fun _ => CodeStored.error _) fun _ =>
    wp_generateRounds hevol (fun round hround code hcode => ?_) h
  exact htakes code (List.mem_flatMap.mpr ⟨round, hround, hcode⟩)

end CouponService

/-! ## §5. Gift cards. -/

namespace GiftcardService

variable (hevol : ∀ ids s s', C.Evol ids s s' → ∀ c, takes c →
  Unused CodeKind.giftcard.code c s.db → Unused CodeKind.giftcard.code c s'.db)

include hevol

theorem wp_create (h : Looked .giftcard takes [] s ss) (hi : C.Inv s) {id : Int} {draws : Draws}
    {data : GiftcardCreate}
    (htakes : ∀ code ∈ (CodeOp.giftcardCreate id draws data).codes rt, takes code) :
    wp C (create rt id draws data) (CodeStored .giftcard takes) s ss := by
  refine (wp_bind _ _ _ _ _).mpr (wp_codeOr (k := .giftcard) hi (fun code hcode s₁ he => ?_)
    fun e _ _ => CodeStored.error e)
  refine (wp_bind _ _ _ _ _).mpr (wp_liftExcept ?_)
  cases hnormal : normalizeCode rt code with
  | error e => exact CodeStored.error e
  | ok code' =>
    have htake : takes code' :=
      htakes _ (List.mem_filterMap.mpr ⟨code, hcode, by rw [hnormal]; rfl⟩)
    refine (wp_bind _ _ _ _ _).mpr ((h.rely hevol he.rely).wp_ensure hevol
      (fun s₂ _ h₂ hfree => ?_) fun e _ _ => CodeStored.error e)
    refine (wp_bind _ _ _ _ _).mpr (wp_liftExcept ?_)
    cases data.validate with
    | error e => exact CodeStored.error e
    | ok _ =>
      refine (wp_bind _ _ _ _ _).mpr (h₂.wp_create hevol (data.row id code') htake hfree
        (fun s₃ ss₃ _ h₃ => ?_) fun e _ _ => CodeStored.error e)
      exact h₃.stored _

omit hevol in
theorem code_apply {data : GiftcardUpdate} {code : Sent String} {item new : Giftcard}
    (h : data.apply code item = .ok new) : code.required item.code = .ok new.code := by
  unfold GiftcardUpdate.apply at h
  obtain ⟨_, -, h⟩ := except_bind_ok h
  obtain ⟨code', hcode, h⟩ := except_bind_ok h
  obtain ⟨type, -, h⟩ := except_bind_ok h
  obtain ⟨started_at, -, h⟩ := except_bind_ok h
  obtain ⟨ended_at, -, h⟩ := except_bind_ok h
  injection h with h
  rw [hcode, ← h]

theorem wp_update (h : Looked .giftcard takes [] s ss) {giftcard_id : Int} {data : GiftcardUpdate}
    (htakes : ∀ code ∈ (CodeOp.giftcardUpdate giftcard_id data).codes rt, takes code) :
    wp C (update rt giftcard_id data) (CodeStored .giftcard takes) s ss := by
  refine (wp_bind _ _ _ _ _).mpr (wp_get fun s₁ he => ?_)
  dsimp only
  split
  · exact CodeStored.error _
  · next item _ =>
    refine (wp_bind _ _ _ _ _).mpr ((h.rely hevol he.rely).wp_lookedUpCode hevol
      (fun code code' hsent hcode => ?_) (fun sent s₂ h₂ hsent => ?_) fun e _ _ =>
        CodeStored.error e)
    · refine htakes _ (List.mem_filterMap.mpr ⟨code, ?_, by rw [hcode]; rfl⟩)
      rw [hsent]
      exact List.mem_singleton_self code
    · refine (wp_bind _ _ _ _ _).mpr (wp_liftExcept ?_)
      split
      · refine (wp_bind _ _ _ _ _).mpr (wp_liftExcept ?_)
        cases hnew : data.apply sent item with
        | error e => exact CodeStored.error e
        | ok new => exact h₂.wp_updateRow hevol (hsent _ (code_apply hnew))
      · exact CodeStored.error _

theorem wp_generateRounds {ids : Nat → Int} {draws : Nat → Draws} {data : GiftcardCreate}
    {rounds : List Nat} (htakes : ∀ round ∈ rounds, ∀ code ∈ (draws round).codes, takes code)
    {rows : List Giftcard} {s : State Tbl} {ss : Session Tbl}
    (h : Looked .giftcard takes rows s ss) :
    wp C (generateRounds data ids draws rounds) (CodeStored .giftcard takes) s ss := by
  induction rounds generalizing rows s ss with
  | nil => exact h.stored _
  | cons round rounds ih =>
    refine (wp_bind _ _ _ _ _).mpr (wp_firstUnused (k := .giftcard)
      (fun code hcode s₁ he hfree => ?_) fun e _ _ => CodeStored.error e)
    refine (wp_bind _ _ _ _ _).mpr (wp_liftExcept ?_)
    cases data.validate with
    | error e => exact CodeStored.error e
    | ok _ =>
      refine (wp_bind _ _ _ _ _).mpr ((h.rely hevol he.rely).wp_create hevol
        (data.row (ids round) code) (htakes round List.mem_cons_self code hcode) hfree
        (fun s₂ ss₂ _ h₂ => ?_) fun e _ _ => CodeStored.error e)
      refine (wp_bind _ _ _ _ _).mpr (wp_mono
        (ih (fun round' hmem => htakes round' (List.mem_cons_of_mem _ hmem)) h₂) ?_)
      rintro (e | items) s₃ ss₃ h₃
      · exact CodeStored.error e
      · exact fun _ _ => h₃ items rfl

theorem wp_generate (h : Looked .giftcard takes [] s ss) {ids : Nat → Int} {draws : Nat → Draws}
    {data : GiftcardCreate} {generate_count : Int}
    (htakes : ∀ code ∈ (CodeOp.giftcardGenerate ids draws data generate_count).codes rt,
      takes code) :
    wp C (generate ids draws data generate_count) (CodeStored .giftcard takes) s ss := by
  refine wp_ite (fun _ => CodeStored.error _) fun _ =>
    wp_generateRounds hevol (fun round hround code hcode => ?_) h
  exact htakes code (List.mem_flatMap.mpr ⟨round, hround, hcode⟩)

end GiftcardService

/-! ## §6. Invite codes. -/

namespace InviteService

variable (hevol : ∀ ids s s', C.Evol ids s s' → ∀ c, takes c →
  Unused CodeKind.invite.code c s.db → Unused CodeKind.invite.code c s'.db)

include hevol

theorem wp_createForUser (hi : C.Inv s) {id : Int} {draws : Draws} {user_id : Int}
    (htakes : ∀ code ∈ (CodeOp.createForUser id draws user_id).codes rt, takes code) :
    wp C (createForUser rt id draws user_id) (CodeStored .invite takes) s Session.fresh := by
  -- the setting that is read may be copied to the cache
  have hopen : CacheOpen C (Only fun w : Write Tbl => w.table = .runtime_cache)
      (SettingService.Cached.cacheKey "invite_gen_limit") :=
    ⟨fun _ _ _ _ _ hj => hj.append rfl, fun _ _ _ hj => hj.append rfl⟩
  have hlimit : C.Steady (Only fun w : Write Tbl => w.table = .runtime_cache)
      (SettingService.Cached.getInt rt "invite_gen_limit" 5) :=
    steady_getInt rt (Only.stable _ _) hopen 5
  refine hlimit.wp_bind hi (Only.nil _ _) (fun limit s₁ ss₁ hi₁ hcache => ?_)
    fun e _ _ _ => CodeStored.error e
  have h₁ : Looked .invite takes [] s₁ ss₁ := by
    refine ⟨Adds.nil fun w hw htable => ?_, fun w hw => Or.inr (hcache w hw)⟩
    rw [hcache w hw] at htable
    cases htable
  refine (wp_bind _ _ _ _ _).mpr ((wp_bind _ _ _ _ _).mpr (wp_select fun s₂ he₂ => ?_))
  refine wp_ite (fun _ => CodeStored.error _) fun _ => ?_
  refine (wp_bind _ _ _ _ _).mpr (wp_firstUnused (k := .invite) (fun code hcode s₃ he₃ hfree => ?_)
    fun e _ _ => CodeStored.error e)
  refine (wp_bind _ _ _ _ _).mpr (((h₁.rely hevol he₂.rely).rely hevol he₃.rely).wp_create hevol
    ({ id := id, user_id := user_id, code := code, status := 0 } : InviteCode)
    (htakes code hcode) hfree (fun s₄ ss₄ _ h₄ => ?_) fun e _ _ => CodeStored.error e)
  exact h₄.stored _

theorem wp_adminCreate (h : Looked .invite takes [] s ss) {id : Int} {draws : Draws}
    {data : InviteCodeCreate}
    (htakes : ∀ code ∈ (CodeOp.adminCreateInviteCode id draws data).codes rt, takes code) :
    wp C (adminCreateInviteCode rt id draws data) (CodeStored .invite takes) s ss := by
  unfold adminCreateInviteCode
  split
  · exact CodeStored.error _
  · next user_id _ =>
    refine (wp_bind _ _ _ _ _).mpr (wp_get fun s₁ he₁ => ?_)
    dsimp only
    split
    · exact CodeStored.error _
    · -- the code that is sent is looked up as well as one that is drawn
      have hstore : ∀ code s₂, takes code → Looked .invite takes [] s₂ ss → wp C (do
          if ← InviteCodeRepository.codeExists code then
            Prog.throw (ConflictException "邀请码已存在")
          else
            let item : InviteCode :=
              { id := id, user_id := user_id, code := code, status := data.status }
            PyBoard.create .invite_code item
            return item : Db InviteCode) (CodeStored .invite takes) s₂ ss := by
        intro code s₂ htake h₂
        refine (wp_bind _ _ _ _ _).mpr (wp_codeExists .invite code (fun _ _ => CodeStored.error _)
          (fun s₃ he₃ hfree => ?_) fun e _ _ => CodeStored.error e)
        refine (wp_bind _ _ _ _ _).mpr ((h₂.rely hevol he₃.rely).wp_create hevol
          ({ id := id, user_id := user_id, code := code, status := data.status } : InviteCode)
          htake hfree (fun s₄ ss₄ _ h₄ => ?_) fun e _ _ => CodeStored.error e)
        exact h₄.stored _
      have h₁ := h.rely hevol he₁.rely
      unfold CodeOp.codes at htakes
      unfold codeOrGenerated
      cases hgiven : givenCode data.code with
      | some code =>
        simp only [hgiven] at htakes
        exact hstore _ s₁ (htakes _ (List.mem_singleton_self _)) h₁
      | none =>
        simp only [hgiven] at htakes
        refine (wp_bind _ _ _ _ _).mpr (wp_firstUnused (k := .invite)
          (fun code hcode s₂ he₂ _ => ?_) fun e _ _ => CodeStored.error e)
        exact hstore code s₂ (htakes code hcode) (h₁.rely hevol he₂.rely)

theorem wp_adminUpdate (h : Looked .invite takes [] s ss) {invite_id : Int}
    {data : InviteCodeUpdate} :
    wp C (adminUpdateInviteCode invite_id data) (CodeStored .invite takes) s ss := by
  refine (wp_bind _ _ _ _ _).mpr (wp_get fun s₁ he => ?_)
  dsimp only
  split
  · exact CodeStored.error _
  · next item _ =>
    refine (wp_bind _ _ _ _ _).mpr (wp_liftExcept ?_)
    cases hnew : data.apply item with
    | error e => exact CodeStored.error e
    | ok new =>
      have hcode : new.code = item.code := by
        unfold InviteCodeUpdate.apply at hnew
        obtain ⟨status, -, hnew⟩ := except_bind_ok hnew
        obtain ⟨pv, -, hnew⟩ := except_bind_ok hnew
        injection hnew with hnew
        rw [← hnew]
      exact (h.rely hevol he.rely).wp_updateRow hevol (Or.inl hcode)

end InviteService

end

/-! ## §7. All requests. -/

variable (rt : Runtime)

/-- What a request relies on: nobody else takes a code that it may give to a row. -/
def codeContract (l : CodeOp) : Contract CodeOp Tbl :=
  Contract.relying Cond.any (fun _ => True)
    (fun s s' => ∀ c ∈ l.codes rt, Unused l.kind.code c s.db → Unused l.kind.code c s'.db)
    (fun _ _ _ h => h) (fun h h' c hc hu => h' c hc (h c hc hu)) (fun _ h => h)
    (fun _ _ _ _ h => h)

/-- **A request has looked first.** -/
theorem CodeOp.spec (l : CodeOp) (s : State Tbl) :
    wp (codeContract rt l) (l.prog rt) (Ends (codeContract rt l) fun r s' ss' =>
      ∀ a, r = .ok a → CodePost l.kind (· ∈ l.codes rt) s' ss') s Session.fresh := by
  have hevol : ∀ ids s s', (codeContract rt l).Evol ids s s' → ∀ c, c ∈ l.codes rt →
      Unused l.kind.code c s.db → Unused l.kind.code c s'.db := fun ids s s' h => h
  have hfresh : Looked l.kind (· ∈ l.codes rt) [] s Session.fresh :=
    ⟨Adds.nil (fun w hw => by cases hw), fun w hw => by cases hw⟩
  -- the answer of a service is dropped
  have hend : ∀ {α : Type} {p : Db α}, wp (codeContract rt l) p
      (CodeStored l.kind (· ∈ l.codes rt)) s Session.fresh →
      wp (codeContract rt l) (p.bind fun _ => .ret ()) (Ends (codeContract rt l) fun r s' ss' =>
        ∀ a, r = .ok a → CodePost l.kind (· ∈ l.codes rt) s' ss') s Session.fresh := by
    intro α p hp
    refine (wp_bind _ _ _ _ _).mpr (wp_mono hp ?_)
    rintro (e | a) s₁ ss₁ hstored
    · exact fun _ _ _ _ h => by cases h
    · exact fun s₂ hr _ _ _ => ((hstored a rfl).rely hevol hr).post
  cases l with
  | couponCreate id draws data =>
    exact hend (CouponService.wp_create hevol hfresh trivial fun _ h => h)
  | couponUpdate coupon_id data => exact hend (CouponService.wp_update hevol hfresh fun _ h => h)
  | couponGenerate ids draws data generate_count =>
    exact hend (CouponService.wp_generate hevol hfresh fun _ h => h)
  | giftcardCreate id draws data =>
    exact hend (GiftcardService.wp_create hevol hfresh trivial fun _ h => h)
  | giftcardUpdate giftcard_id data =>
    exact hend (GiftcardService.wp_update hevol hfresh fun _ h => h)
  | giftcardGenerate ids draws data generate_count =>
    exact hend (GiftcardService.wp_generate hevol hfresh fun _ (h : _ ∈ CodeOp.codes rt _) => h)
  | createForUser id draws user_id =>
    exact hend (InviteService.wp_createForUser hevol trivial fun _ h => h)
  | adminCreateInviteCode id draws data =>
    exact hend (InviteService.wp_adminCreate hevol hfresh fun _ h => h)
  | adminUpdateInviteCode invite_id data => exact hend (InviteService.wp_adminUpdate hevol hfresh)

end PyBoard
