/-
# An acceptance by itself

Accepting a line, confirming the best one and creating a package are one bracket each. Where nobody
else is at work and no row is locked, the bracket holds the line it is after
(`Desk.alone_hold`) and takes it (`Desk.alone_take`), and so it leaves the rows with the line taken.
-/

import LoanDesk.Proofs.Race.Canceller
import LoanDesk.Proofs.Race.Alone.Calls

namespace LoanDesk

namespace Desk

open Program
open LineStatus (canMove)

section Accept

variable {tx : TxId} {b : Book} {s : Store} {h : Held} {α β : Type} {Q : β → Store → Prop}
  {caller : Caller} {now : Instant}

/-- An open line of an offer with a flow may take any other status but that of a signed one. -/
theorem canMove_of_isPending {l : Line} (hl : l.isPending) {flow : Flow} (hf : flow ≠ .unspecified)
    {target : LineStatus} (ht : target ≠ .pending ∧ target ≠ .signed) :
    l.status.ensureMove flow target = .ok () := by
  have hs : l.status = .pending := by simpa [Line.isPending] using hl
  rw [LineStatus.ensureMove, if_pos]
  rw [hs]
  cases target <;> simp_all [canMove, LineStatus.next]

/-- An open request passes the check. -/
theorem ensurePending_of_isPending {r : Request} (hr : r.isPending) : r.ensurePending = .ok () := by
  rw [Request.ensurePending, if_pos hr]

/-- The line is found among the lines of its offer when they are locked. -/
theorem alone_findLocked (hh : h.In b.rows) (hk : b.rows.Keyed) {f : Line → Action β}
    (hs : Solo tx b s) (hf : ∀ t, Solo tx b t → Alone Q (f h.line) t) :
    Alone Q (do
      let ls ← ask tx (.lockLinesOfOffer h.offer.id)
      let l ← findLine ls h.line.id
      f l) s := by
  have hmem : h.line ∈ b.rows.lines.values.filter (·.offer == h.offer.id) :=
    List.mem_filter.2 ⟨hk.lines.mem_values.2 hh.line, by
      simpa using (hk.offers _ _ hh.offer).symm⟩
  refine Alone.ask hs (Book.lockLinesOfOffer_eq_ok.2
    ⟨rfl, List.ne_nil_of_mem hmem, fun _ _ => rfl, rfl⟩) fun t hs => ?_
  refine brings_findLine_of_mem hmem (fun l hl hid => ?_) (hf t hs)
  have hl := hk.lines.mem_values.1 (List.mem_filter.1 hl).1
  rw [hid, hh.line] at hl
  exact (Option.some.inj hl).symm

/-- An open line of an open request is held. -/
theorem alone_hold (hh : h.In b.rows) (hk : b.rows.Keyed) (hp : h.request.isPending)
    (hl : h.line.isPending) (hf : h.offer.flow ≠ .unspecified) {target : LineStatus}
    (ht : target ≠ .pending ∧ target ≠ .signed) (hs : Solo tx b s) :
    Alone (fun x t => x = h ∧ Solo tx b t) (hold tx h.offer.id h.line.id target) s := by
  have hoffer := hh.offer
  rw [← hk.offers _ _ hoffer] at hoffer
  have hrequest := hh.request
  rw [← hk.requests _ _ hrequest] at hrequest
  refine Alone.ask hs (Book.offerWithRequest_eq_ok (x := (h.offer, h.request)).2
    ⟨hoffer, hh.request, rfl⟩) fun t hs => ?_
  refine Alone.ask hs (Book.lockRequest_eq_ok.2 ⟨hrequest, rfl, rfl⟩) fun t hs => ?_
  refine alone_findLocked hh hk hs fun t hs => ?_
  exact brings_ensure_ok (canMove_of_isPending hl hf ht)
    (brings_ensure_ok (ensurePending_of_isPending hp) (alone_pure ⟨rfl, hs⟩))

/-- The other open lines are cancelled, those of the offer before the rest. -/
theorem alone_cancelAlternatives (h : Held) (by_ : String) (hs : Solo tx b s) :
    Alone (fun _ t => Solo tx ⟨(b.rows.cancel (·.offer == h.offer.id) by_ .alternativeOption now).cancel
        (fun l => [h.request.id].contains l.request) by_ .alternativeOption now, b.last⟩ t)
      (cancelAlternatives tx h by_ now) s := by
  refine Alone.ask hs (Book.cancelWhere_eq_ok.2 ⟨rfl, fun _ _ _ _ => rfl, rfl⟩) fun t hs => ?_
  refine Alone.ask hs (Book.cancelWhere_eq_ok.2 ⟨rfl, fun _ _ _ _ => rfl, rfl⟩) fun t hs => ?_
  exact alone_pure hs

/-- A line that is held is taken. -/
theorem alone_take (hh : h.In b.rows) (hk : b.rows.Keyed) {status : LineStatus} {by_ : String}
    {f : Nat × Nat → Action β} (hs : Solo tx b s)
    (hf : ∀ n t, Solo tx ⟨b.rows.take h status by_ now, b.last⟩ t → Alone Q (f n) t) :
    Alone Q
      (do
        let _ ← ask tx (.setLineStatuses [h.line.id] status now)
        let n ← cancelAlternatives tx h by_ now
        ask tx (.setRequestStatus h.request.id .confirmed now)
        f n) s := by
  have hrequest := hh.request
  rw [← hk.requests _ _ hrequest] at hrequest
  refine Alone.ask hs (Book.setLineStatuses_eq_ok.2 ⟨rfl, fun _ _ _ _ => rfl, rfl⟩) fun t hs => ?_
  refine Brings.bind (alone_cancelAlternatives h by_ hs) fun n t hs => ?_
  exact Alone.ask hs ((Book.setRequestStatus_eq_ok (u := ())).2 ⟨⟨h.request, hrequest⟩, rfl, rfl⟩)
    fun t hs => hf n t hs

/-- An acceptance takes the line. -/
theorem alone_accept (hh : h.In s.rows) (hq : s.Still)
    (hp : h.request.isPending) (hl : h.line.isPending)
    (hs : caller.actor.ensureScope h.request.investor = .ok ()) (ho : h.offer.flow = .online)
    (hx : h.offer.isExpired now = false) :
    Alone (fun _ t => t.rows = s.rows.take h .creatingPackage caller.name now ∧ t.Still)
      (accept ⟨h.offer.id, h.line.id⟩ caller now) s := by
  have hoffer := hh.offer
  rw [← hq.keyed.offers _ _ hoffer] at hoffer
  refine Brings.bind (alone_bracket (Q := fun _ rows =>
    rows = s.rows.take h .creatingPackage caller.name now) hq fun tx t ht => ?_)
    fun ⟨h', n, m⟩ t ht => alone_tell _ _ fun undelivered => ht
  refine Alone.ask ht (Book.offerWithRequest_eq_ok (x := (h.offer, h.request)).2
    ⟨hoffer, hh.request, rfl⟩) fun t ht => ?_
  refine brings_ensure_ok hs ?_
  rw [if_neg (by simp [ho]), if_neg (by simp [hx])]
  refine Brings.bind (alone_hold hh hq.keyed hp hl (by rw [ho]; decide) (by decide) ht)
    fun h' t ⟨hh', ht⟩ => ?_
  subst hh'
  exact alone_take hh hq.keyed ht fun n t ht => alone_pure ⟨_, ht, rfl⟩

/-- A confirmation takes the best line and writes its contract. -/
theorem alone_confirm {c : Confirmation} (hh : h.In s.rows) (hq : s.Still)
    (hp : h.request.isPending) (hl : h.line.isPending) (hf : h.offer.flow ≠ .unspecified)
    (hb : best? (candidates c s.rows) = some h.line)
    (hbare : ∀ n k, s.rows.contracts.get? n = some k → k.line ≠ h.line.id) :
    Alone (fun a t => a.line.id = h.line.id ∧
      t.rows = (s.rows.take h .packageCreated caller.name now).sign
        ((ContractDraft.forLine h.request h.line).toContract (s.lastId + 1) now) now ∧ t.Still)
      (confirm c caller now) s := by
  refine Brings.bind (alone_bracket (Q := fun x rows => x.1 = h ∧
    rows = (s.rows.take h .packageCreated caller.name now).sign
      ((ContractDraft.forLine h.request h.line).toContract (s.lastId + 1) now) now)
    hq fun tx t ht => ?_) fun ⟨h', n, m, k⟩ t ⟨⟨hh', hrows⟩, hstill⟩ =>
      alone_tell _ _ fun _ => ⟨congrArg (·.line.id) hh', hrows, hstill⟩
  refine Alone.ask ht (Book.linesOfRequests_eq_ok.2 ⟨rfl, rfl⟩) fun t ht => ?_
  have hbest : best? (candidates c s.stored.rows) = some h.line := hb
  rw [candidates] at hbest
  rw [hbest]
  dsimp only
  have hlo := hq.keyed.offers _ _ hh.offer
  rw [← hlo]
  refine Brings.bind (alone_hold hh hq.keyed hp hl hf (by decide) ht) fun h' t ⟨hh', ht⟩ => ?_
  subst hh'
  refine alone_take hh hq.keyed ht fun n t ht => ?_
  refine Alone.ask ht (Book.createContract_eq_ok.2 ⟨fun k hk hkl => ?_, rfl, rfl⟩) fun t ht => ?_
  · obtain ⟨n, hn⟩ := Table.mem_values.1 hk
    exact hbare n k hn hkl
  exact Alone.ask ht ((Book.attachContract_eq_ok (u := ())).2
    ⟨⟨_, Rows.get?_lines_take hh.line rfl caller.name now⟩, rfl, rfl⟩) fun t ht =>
      alone_pure ⟨_, ht, rfl, rfl⟩

/-- The package of a line that has no contract is created, where the line may move on to it. -/
theorem alone_createPackage (hh : h.In s.rows) (hq : s.Still)
    (hm : canMove h.offer.flow h.line.status .packageCreated)
    (hbare : ∀ n k, s.rows.contracts.get? n = some k → k.line ≠ h.line.id) :
    Alone (fun _ t => t.rows =
      (s.rows.setLines (fun l => [h.line.id].contains l.id) .packageCreated now).sign
        ((ContractDraft.forLine h.request h.line).toContract (s.lastId + 1) now) now ∧ t.Still)
      (createPackage h.line.id now) s := by
  have hmove : h.line.status.ensureMove h.offer.flow .packageCreated = .ok () := by
    rw [LineStatus.ensureMove, if_pos hm]
  have hnone : ∀ k ∈ s.rows.contracts.values, k.line ≠ h.line.id := fun k hk =>
    (Table.mem_values.1 hk).elim fun n hn => hbare n k hn
  have hline : (s.rows.setLines (fun l => [h.line.id].contains l.id) .packageCreated
      now).lines.get? h.line.id = some (h.line.withStatus .packageCreated now) :=
    (Rows.get?_setLines_one hq.keyed.lines hh.line).2 (Or.inl ⟨rfl, rfl⟩)
  have hoffer := hh.offer
  rw [← hq.keyed.offers _ _ hoffer] at hoffer
  refine alone_bracket (Q := fun _ rows => rows = (s.rows.setLines _ _ _).sign _ _) hq
    fun tx t ht => ?_
  refine Alone.ask ht (Book.getLine_eq_ok.2 ⟨hh.line, rfl⟩) fun t ht => ?_
  rw [← hq.keyed.offers _ _ hh.offer]
  refine Alone.ask ht (Book.offerWithRequest_eq_ok (x := (h.offer, h.request)).2
    ⟨hoffer, hh.request, rfl⟩) fun t ht => ?_
  refine alone_findLocked hh hq.keyed ht fun t ht => brings_ensure_ok hmove ?_
  refine Alone.ask ht (Book.contractOfLine_eq_ok.2 ⟨rfl, rfl⟩) fun t ht => ?_
  rw [List.find?_eq_none.2 fun k hk => by simpa using hnone k hk]
  refine Alone.ask ht (Book.setLineStatuses_eq_ok.2 ⟨rfl, fun _ _ _ _ => rfl, rfl⟩) fun t ht => ?_
  refine Alone.ask ht (Book.createContract_eq_ok.2 ⟨hnone, rfl, rfl⟩) fun t ht => ?_
  exact Alone.ask ht ((Book.attachContract_eq_ok (u := ())).2 ⟨⟨_, hline⟩, rfl, rfl⟩)
    fun t ht => alone_pure ⟨_, ht, rfl⟩

end Accept

end Desk
end LoanDesk
