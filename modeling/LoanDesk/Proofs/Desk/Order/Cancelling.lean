/-
# Cancelling keeps order

The lines of a cancellation are found loan by loan: of each loan the open ones, where their offers
allow it (`brings_targets`). An administrator's cancellation is one change, and the investor is told of
it where nothing is left open (`cancel_eq`). An investor who declines an offer cancels its open lines,
and where a symbol is withdrawn all open requests for it are closed.
-/

import LoanDesk.Proofs.Desk.Order.Checks

namespace LoanDesk
namespace Desk

open Program
open LineStatus (canMove)

variable {α β : Type} {tx : TxId} {b : Book} {caller : Caller} {now : Instant}

/-! ### Cancelling lines -/

/-- Checking the lines makes no calls. -/
theorem within_ensureCancellable (offers : List Offer) :
    ∀ lines, Within tx (ensureCancellable offers lines)
  | [] => within_pure _
  | _ :: ls => (within_ensure _).bind fun _ => within_ensureCancellable offers ls

/-- Picking the lines of a loan makes no calls. -/
theorem within_openLines (offers : List Offer) (lines : List Line) (loan : Int) :
    Within tx (openLines offers lines loan) := by
  unfold openLines
  split
  · exact within_throw _
  · exact (within_ensureCancellable _ _).bind fun _ => within_pure _

/-- Picking the lines of all loans makes no calls. -/
theorem within_targets (offers : List Offer) (lines : List Line) :
    ∀ loans, Within tx (targets offers lines loans)
  | [] => within_pure _
  | _ :: loans => by
    refine (within_openLines _ _ _).bind fun _ => ?_
    refine (within_targets offers lines loans).bind fun _ => ?_
    exact within_pure _

/-- Locking the offers stays in the transaction. -/
theorem within_lockOffers : ∀ offers, Within tx (lockOffers tx offers)
  | [] => within_pure _
  | _ :: os => (within_ask _ _).bind fun _ => within_lockOffers os

/-- A flow that is found among offers that were looked up is that of a stored one. -/
theorem offer_of_flowOf {rows : Rows} (hk : rows.Keyed) {key : Offer → Instant × Int}
    {p : Offer → Bool} {id : Int}
    (h : flowOf (newestFirst key (rows.offers.values.filter p)) id ≠ .unspecified) :
    ∃ o, rows.offers.get? id = some o ∧ o.flow ≠ .unspecified := by
  unfold flowOf at h
  split at h
  · rename_i o ho
    have hmem := mem_newestFirst.1 (List.mem_reverse.1 (List.mem_of_find?_eq_some ho))
    have hid : o.id = id := by simpa using List.find?_some ho
    exact ⟨o, by rw [← hid]; exact hk.offers.mem_values.1 (List.mem_filter.1 hmem).1, h⟩
  · exact absurd rfl h

/-- Lines that pass the check may be cancelled, each in the flow of its offer. -/
theorem brings_ensureCancellable (offers : List Offer) :
    ∀ lines, Brings Book.shared (fun _ b' => (b'.rows = b.rows ∧ b.last ≤ b'.last) ∧
      ∀ l ∈ lines, canMove (flowOf offers l.offer) l.status .cancelled) (fun _ _ => True)
      (ensureCancellable offers lines) b
  | [] => Brings.pure fun _ ht => ⟨ht, List.forall_mem_nil _⟩
  | _ :: ls => by
    refine brings_ensure fun hmove => ?_
    refine Brings.mono (fun _ b' h => ⟨h.1, ?_⟩) (fun _ _ h => h) (brings_ensureCancellable offers ls)
    exact List.forall_mem_cons.2 ⟨canMove_of_ensure hmove, h.2⟩

/-- The open ones among lines with a loan. -/
def openWith (lines : List Line) (loan : Int) : List Line :=
  lines.filter fun l => l.isPending && l.loan == loan

/-- The open lines with a loan are the lines that are open and have it. -/
theorem mem_openWith {lines : List Line} {loan : Int} {l : Line} :
    l ∈ openWith lines loan ↔ l ∈ lines ∧ l.isPending ∧ l.loan = loan := by
  rw [openWith, List.mem_filter, Bool.and_eq_true, beq_iff_eq]

/-- Some of the lines are open: one that is not may not be cancelled. -/
theorem brings_openLines (offers : List Offer) (lines : List Line) (loan : Int) :
    Brings Book.shared (fun ls b' => (b'.rows = b.rows ∧ b.last ≤ b'.last) ∧
      (ls = openWith lines loan ∧ ls ≠ []) ∧ ∀ l ∈ ls, flowOf offers l.offer ≠ .unspecified)
      (fun _ _ => True) (openLines offers lines loan) b := by
  unfold openLines
  split
  · exact Brings.throw fun _ _ => trivial
  · rename_i l ls hls
    refine Brings.bind (brings_ensureCancellable offers _) fun _ b₁ ⟨h₁, hmove⟩ => ?_
    refine Brings.pure fun t ht => ⟨⟨ht.1.trans h₁.1, Int.le_trans h₁.2 ht.2⟩, ?_⟩
    have hsome : (l :: ls).filter (·.isPending) ≠ [] := by
      intro hnone
      rw [hnone] at hmove
      have hpend := isPending_of_cancellable (hmove l List.mem_cons_self)
      exact absurd hpend (List.filter_eq_nil_iff.1 hnone l List.mem_cons_self)
    rw [if_neg (by simpa using hsome)] at hmove
    refine ⟨⟨?_, hsome⟩, fun x hx => flow_of_canMove (hmove x hx)⟩
    rw [← hls, List.filter_filter]
    rfl

/-- The open lines are found loan by loan, and there are some with each loan. -/
theorem brings_targets (offers : List Offer) (lines : List Line) : ∀ (loans : List Int) {b : Book},
    Brings Book.shared (fun ls b' => (b'.rows = b.rows ∧ b.last ≤ b'.last) ∧
      (∀ l ∈ ls, (l ∈ lines ∧ l.isPending ∧ l.loan ∈ loans) ∧ flowOf offers l.offer ≠ .unspecified) ∧
      ls = loans.flatMap (openWith lines) ∧ ∀ loan ∈ loans, openWith lines loan ≠ [])
      (fun _ _ => True) (targets offers lines loans) b
  | [], _ => Brings.pure fun _ ht => ⟨ht, List.forall_mem_nil _, rfl, List.forall_mem_nil _⟩
  | loan :: loans, _ => by
    refine Brings.bind (brings_openLines offers lines loan) fun ls b₁ ⟨h₁, ⟨he, hsome⟩, hflow⟩ => ?_
    refine Brings.bind (brings_targets offers lines loans) fun ls' b₂ ⟨h₂, hls', he', hsome'⟩ => ?_
    refine Brings.pure fun t ht => ⟨⟨ht.1.trans (h₂.1.trans h₁.1),
      Int.le_trans h₁.2 (Int.le_trans h₂.2 ht.2)⟩, fun l hl => ?_, ?_, ?_⟩
    · rcases List.mem_append.1 hl with hl | hl
      · refine ⟨?_, hflow l hl⟩
        rw [he] at hl
        obtain ⟨hmem, hpend, rfl⟩ := mem_openWith.1 hl
        exact ⟨hmem, hpend, List.mem_cons_self⟩
      · obtain ⟨⟨hmem, hpend, hloan⟩, hflow⟩ := hls' l hl
        exact ⟨⟨hmem, hpend, List.mem_cons_of_mem _ hloan⟩, hflow⟩
    · rw [List.flatMap_cons, he, he']
    · rw [he] at hsome
      exact List.forall_mem_cons.2 ⟨hsome, hsome'⟩

/-- Locking offers changes no rows. -/
theorem brings_lockOffers : ∀ (offers : List Int) {b : Book},
    Brings Book.shared (fun _ b' => b'.rows = b.rows ∧ b.last ≤ b'.last) (fun _ _ => True)
      (lockOffers tx offers) b
  | [], _ => Brings.pure fun _ ht => ht
  | o :: os, _ => by
    refine Brings.shared_ask_bind fun n hn free ls b₁ h₁ => ?_
    obtain ⟨-, -, -, rfl⟩ := Book.lockLinesOfOffer_eq_ok.1 h₁
    exact Brings.mono (fun _ _ h => ⟨h.1, Int.le_trans hn h.2⟩) (fun _ _ h => h)
      (brings_lockOffers os)

/-- The lines with the loans of a cancellation were cancelled, and this is where the request stands
then. -/
structure Cancels (c : Cancellation) (by_ : String) (now : Instant) (r : Request) (ids : List Int)
    (standing : Standing) (rows rows' : Rows) : Prop where
  request : rows.requests.get? c.request = some r
  found : ∀ loan ∈ c.loans, openWith (rows.linesOfAll [r.id]) loan ≠ []
  listed : ids = (c.loans.flatMap (openWith (rows.linesOfAll [r.id]))).map (·.id)
  stored : rows' = rows.cancel (fun l => ids.contains l.id) by_
    (if c.forInvestor then .investor else .admin) now
  stands : standing = .of r (rows'.linesOfAll [r.id])

/-- A cancellation with some loans is one change, and then the investor is told where nothing is left
open. -/
theorem cancel_eq {c : Cancellation} (hloans : c.loans ≠ []) (caller : Caller) (now : Instant) :
    ∃ m : Action (Request × List Int × Standing),
      Commits (fun x b b' => Deed (.operate (.cancel c) caller now) b b' ∧
        Cancels c caller.name now x.1 x.2.1 x.2.2 b.rows b'.rows ∧
        b.rows.requests.get? x.1.id = some x.1 ∧
        ∃ i l, b.rows.lines.get? i = some l ∧ l.request = x.1.id ∧ l.isPending) m ∧
      cancel c caller now = m >>= fun x => do
        let undelivered ← if x.2.2.isCancelled then
            deliver (.requestDeclined (.of x.1) (if c.forInvestor then .investor else .admin))
          else pure none
        return ⟨x.1.id, x.2.1, x.1.status, x.2.2, undelivered⟩ := by
  unfold cancel
  rw [if_neg (by simpa using hloans)]
  refine ⟨_, ⟨_, _, rfl, fun tx => ?_, fun tx b hk => ?_⟩, rfl⟩
  · refine (within_ask _ _).bind fun r => ?_
    refine (within_ask _ _).bind fun _ => ?_
    refine (within_ask _ _).bind fun _ => ?_
    refine (within_targets _ _ _).bind fun _ => ?_
    refine (within_lockOffers _).bind fun _ => ?_
    refine (within_ask _ _).bind fun _ => ?_
    refine (within_ask _ _).bind fun _ => ?_
    exact within_pure _
  · refine Brings.shared_ask_bind fun n hn free r b₁ h₁ => ?_
    obtain ⟨hr, -, rfl⟩ := Book.lockRequest_eq_ok.1 h₁
    refine Brings.shared_ask_bind fun n₂ hn₂ free₂ offers b₂ h₂ => ?_
    obtain ⟨rfl, rfl⟩ := Book.offersOfRequest_eq_ok.1 h₂
    refine Brings.shared_ask_bind fun n₃ hn₃ free₃ lines b₃ h₃ => ?_
    obtain ⟨rfl, rfl⟩ := Book.linesOfRequests_eq_ok.1 h₃
    refine Brings.bind (brings_targets _ _ _) fun ls ⟨rows₄, n₄⟩ ⟨⟨hrows₄, hn₄⟩, hls, he, hsome⟩ => ?_
    dsimp only at hrows₄
    subst hrows₄
    refine Brings.bind (brings_lockOffers _) fun _ ⟨rows₅, n₅⟩ ⟨hrows₅, hn₅⟩ => ?_
    dsimp only at hrows₅
    subst hrows₅
    refine Brings.shared_ask_bind fun n₆ hn₆ free₆ _ b₆ h₆ => ?_
    obtain ⟨-, -, rfl⟩ := Book.cancelWhere_eq_ok.1 h₆
    refine Brings.shared_ask_bind fun n₇ hn₇ free₇ _ b₇ h₇ => ?_
    obtain ⟨rfl, rfl⟩ := Book.linesOfRequests_eq_ok.1 h₇
    refine Brings.pure fun ⟨rows', last⟩ ⟨hrows, hlast⟩ => ?_
    dsimp only at hr hn hn₂ hn₃ hn₄ hn₅ hn₆ hn₇ hlast
    subst hrows
    have hmem : ∀ l ∈ ls, b.rows.lines.get? l.id = some l ∧ l.request = r.id :=
      fun l hl => hk.line_of_newest (hls l hl).1.1
    refine ⟨.cancel hr (fun id hid => ?_) (by omega) fun id hid x hx => ?_,
      ⟨hr, hsome, congrArg _ he, rfl, rfl⟩, by rw [hk.requests _ _ hr]; exact hr, ?_⟩
    · obtain ⟨l, hl, rfl⟩ := List.mem_map.1 hid
      obtain ⟨hget, hreq⟩ := hmem l hl
      exact ⟨l, hget, hreq, (hls l hl).1.2.2⟩
    · obtain ⟨l, hl, rfl⟩ := List.mem_map.1 hid
      rw [(hmem l hl).1] at hx
      obtain rfl := Option.some.inj hx
      exact offer_of_flowOf hk (hls l hl).2
    · obtain ⟨loan, hloan⟩ := List.exists_mem_of_ne_nil _ hloans
      obtain ⟨l, hl⟩ := List.exists_mem_of_ne_nil _ (hsome loan hloan)
      obtain ⟨hl, hpend, -⟩ := mem_openWith.1 hl
      obtain ⟨hget, hreq⟩ := hk.line_of_newest hl
      exact ⟨_, l, hget, hreq, hpend⟩

/-- A cancellation tells the investor of the request, if none of its lines is left. -/
theorem announces_cancel (c : Cancellation) :
    Announces (Deed (.operate (.cancel c) caller now)) (Operation.cancel c).Tells
      (Operation.cancel c).unheard (cancel c caller now) := by
  by_cases hloans : c.loans = []
  · unfold cancel
    rw [hloans]
    exact .throw _
  · obtain ⟨m, hm, he⟩ := cancel_eq hloans caller now
    rw [he]
    refine .change hm And.left (fun x => ?_) fun x => ?_
    · split
      · exact heedless_tell _ fun _ _ => rfl
      · exact Silent.heedless (silent_done _)
    · split
      · exact telling_tell _ fun _ _ _ hC => .inr ⟨x.1, _, rfl, hC.2.2⟩
      · exact telling_pure fun _ => .inl rfl

/-- Declining an offer tells the investor of the request, if none of its lines is left. -/
theorem announces_decline (offer : Int) :
    Announces (Deed (.operate (.decline offer) caller now)) (Operation.decline offer).Tells
      (Operation.decline offer).unheard (decline offer caller now) := by
  refine .commit (C := fun _ => Deed (.operate (.decline offer) caller now))
    ⟨_, _, rfl, fun tx => ?_, fun tx b hk => ?_⟩ id fun _ => rfl
  · refine (within_ask _ _).bind fun x => ?_
    refine (within_ensure _).bind fun _ => ?_
    refine (within_ask _ _).bind fun _ => ?_
    refine (within_ask _ _).bind fun lines => ?_
    dsimp only
    split
    · refine (within_ensure _).bind fun _ => ?_
      refine (within_ask _ _).bind fun _ => ?_
      refine (within_ask _ _).bind fun _ => ?_
      exact within_pure _
    · exact within_throw _
  · refine Brings.shared_ask_bind fun n hn free ⟨o, r⟩ b₁ h₁ => ?_
    obtain ⟨ho, hr, rfl⟩ := Book.offerWithRequest_eq_ok.1 h₁
    refine brings_ensure fun hscope => ?_
    refine Brings.shared_ask_bind fun n₂ hn₂ free₂ _ b₂ h₂ => ?_
    obtain ⟨-, -, rfl⟩ := Book.lockRequest_eq_ok.1 h₂
    refine Brings.shared_ask_bind fun n₃ hn₃ free₃ lines b₃ h₃ => ?_
    obtain ⟨-, -, -, rfl⟩ := Book.lockLinesOfOffer_eq_ok.1 h₃
    dsimp only
    split
    · refine brings_ensure fun hmove => ?_
      refine Brings.shared_ask_bind fun n₄ hn₄ free₄ _ b₄ h₄ => ?_
      obtain ⟨-, -, rfl⟩ := Book.cancelWhere_eq_ok.1 h₄
      refine Brings.shared_ask_bind fun n₅ hn₅ free₅ _ b₅ h₅ => ?_
      obtain ⟨-, rfl⟩ := Book.linesOfRequests_eq_ok.1 h₅
      refine Brings.pure fun ⟨rows', last⟩ ⟨hrows, hlast⟩ => ?_
      dsimp only at ho hr hn hn₂ hn₃ hn₄ hn₅ hlast
      subst hrows
      have hid := hk.offers _ _ ho
      rw [← hid] at ho ⊢
      exact .decline ho hr hscope (by omega) (flow_of_canMove (canMove_of_ensure hmove))
    · exact fun _ _ => trivial

/-- A withdrawal tells the investor of every request that it claims. -/
theorem announces_withdraw (symbol : Int) :
    Announces (Deed (.operate (.withdraw symbol) caller now)) (Operation.withdraw symbol).Tells
      (Operation.withdraw symbol).unheard (withdraw symbol caller now) := by
  refine .change (C := fun x b b' => Deed (.operate (.withdraw symbol) caller now) b b' ∧
      ∀ r ∈ x.1, b.rows.HasOpen r)
    ⟨_, _, rfl, fun tx => ?_, fun tx b hk => ?_⟩ And.left (fun _ => ?_)
    fun ⟨claimed, cancelled⟩ => ?_
  · refine (within_ask _ _).bind fun claimed => ?_
    refine (within_ask _ _).bind fun cancelled => ?_
    refine (within_ask _ _).bind fun _ => ?_
    exact within_pure _
  · refine Brings.shared_ask_bind fun n hn free rs b₁ h₁ => ?_
    obtain ⟨rfl, rfl⟩ := Book.claimBySymbol_eq_ok.1 h₁
    refine Brings.shared_ask_bind fun n₂ hn₂ free₂ _ b₂ h₂ => ?_
    obtain ⟨-, -, rfl⟩ := Book.cancelWhere_eq_ok.1 h₂
    refine Brings.shared_ask_bind fun n₃ hn₃ free₃ _ b₃ h₃ => ?_
    obtain ⟨-, -, rfl⟩ := Book.setRequestStatuses_eq_ok.1 h₃
    refine Brings.pure fun ⟨rows', last⟩ ⟨hrows, hlast⟩ => ?_
    dsimp only at hn hn₂ hn₃ hlast
    subst hrows
    have hclaimed : ∀ r ∈ b.claimable free (fun r => r.symbol == symbol),
        b.rows.HasOpen r ∧ r.symbol = symbol := by
      intro r hr
      obtain ⟨hmem, hpend, hsym, -⟩ := Book.mem_claimable.1 hr
      exact ⟨⟨hk.requests.mem_values.1 hmem, hpend⟩, by simpa using hsym⟩
    exact ⟨.withdraw (fun r hr => and_assoc.1 (hclaimed r hr)) (by omega),
      fun r hr => (hclaimed r hr).1⟩
  · exact (heedless_deliverAll _).bind fun _ => akin_pure rfl
  · refine (telling_deliverAll _).bind fun _ => ?_
    refine telling_pure fun es hes b b' hC => ?_
    exact ⟨claimed, by rw [hes, List.append_nil], hC.2⟩

end Desk
end LoanDesk
