/-
# Failures are about the question

Whatever is asked where the store works and nobody else is at work in it, a failure is about what was
asked, and the store is never to blame (`Desk.answers_action`).
-/

import LoanDesk.Proofs.Race.Verdicts.Conditions

namespace LoanDesk
namespace Desk

open Program

/-! ### Cancelling and withdrawing -/

section Cancel

variable {tx : TxId} {b : Book} {s : Store} {caller : Caller} {now : Instant}

/-- Checking lines is answered by itself. -/
theorem answers_ensureCancellable (offers : List Offer) (hs : Solo tx b s) :
    ∀ lines, Answers (fun _ t => Solo tx b t) (ensureCancellable offers lines) s
  | [] => answers_pure hs
  | _ :: ls => answers_ensure fun _ => answers_ensureCancellable offers hs ls

/-- Picking the open lines of a loan is answered by itself. -/
theorem answers_openLines (offers : List Offer) (lines : List Line) (loan : Int)
    (hs : Solo tx b s) : Answers (fun _ t => Solo tx b t) (openLines offers lines loan) s := by
  unfold openLines
  split
  · exact fun _ _ => trivial
  · exact Brings.bind (answers_ensureCancellable offers hs _) fun _ t ht => answers_pure ht

/-- Picking the open lines of all loans keeps the transaction as it is. -/
theorem answers_targets (offers : List Offer) (lines : List Line) : ∀ (loans : List Int) {s : Store},
    Solo tx b s → Answers (fun _ t => Solo tx b t) (targets offers lines loans) s
  | [], _, hs => answers_pure hs
  | loan :: loans, _, hs => by
    refine Brings.bind (answers_openLines offers lines loan hs) fun _ _ ht => ?_
    refine Brings.bind (answers_targets offers lines loans ht) fun _ _ ht => ?_
    exact answers_pure ht

/-- Locking offers keeps the book as it is. -/
theorem answers_lockOffers : ∀ (offers : List Int) {s : Store}, Solo tx b s →
    Answers (fun _ t => Solo tx b t) (lockOffers tx offers) s
  | [], _, hs => answers_pure hs
  | _ :: os, _, hs => answers_lockLines hs fun _ ht => answers_lockOffers os ht

/-- A cancellation is answered. -/
theorem answers_cancel (c : Cancellation) (hq : s.Still) :
    Answers (fun _ _ => True) (cancel c caller now) s := by
  refine answers_ensureSound ?_
  refine Brings.bind (P := fun _ _ => True) (answers_bracket hq fun tx t ht _ => ?_) fun x t _ => ?_
  · refine answers_ask ht rfl fun r _ _ t ht => ?_
    refine answers_ask ht rfl fun os _ _ t ht => ?_
    refine answers_ask ht rfl fun ls _ _ t ht => ?_
    refine Brings.bind (answers_targets _ _ _ ht) fun ts t ht => ?_
    refine Brings.bind (answers_lockOffers _ ht) fun _ t ht => ?_
    refine answers_ask ht rfl fun cancelled _ _ t ht => ?_
    exact answers_ask ht rfl fun remaining _ _ t ht => answers_pure trivial
  · dsimp only
    split
    · exact Brings.bind (answers_deliver _) fun _ _ _ => answers_pure trivial
    · exact answers_pure trivial

/-- Telling of events is answered, whatever becomes of them. -/
theorem answers_deliverAll : ∀ (es : List Event) (s : Store),
    Answers (fun _ _ => True) (deliverAll es) s
  | [], _ => answers_pure trivial
  | e :: es, _ => by
    refine Brings.bind (answers_deliver e) fun _ t _ => ?_
    refine Brings.bind (answers_deliverAll es t) fun _ _ _ => ?_
    exact answers_pure trivial

/-- A withdrawal is answered. -/
theorem answers_withdraw (symbol : Int) (hq : s.Still) :
    Answers (fun _ _ => True) (withdraw symbol caller now) s := by
  refine Brings.bind (P := fun _ _ => True) (answers_bracket hq fun tx t ht _ => ?_) fun x t _ => ?_
  · refine answers_ask ht rfl fun claimed _ _ t ht => ?_
    refine answers_ask ht rfl fun cancelled _ _ t ht => ?_
    exact answers_ask ht rfl fun _ _ _ t ht => answers_pure trivial
  · exact Brings.bind (answers_deliverAll _ t) fun undelivered _ _ => answers_pure trivial

end Cancel

/-! ### Everything that may be asked -/

section Rest

variable {s : Store} {caller : Caller} {now : Instant}

/-- The opening of a request is answered. -/
theorem answers_openRequest (c : OpenRequest) (hq : s.Still) :
    Answers (fun _ _ => True) (openRequest c caller now) s := by
  refine answers_ensure fun hscope => ?_
  refine answers_ensureSound ?_
  exact answers_bracket hq fun tx t ht _ => answers_last ht rfl

/-- A proposal is answered. -/
theorem answers_propose (c : Proposal) (hq : s.Still) :
    Answers (fun _ _ => True) (propose c caller now) s := by
  refine answers_ensureSound ?_
  refine Brings.bind (P := fun _ _ => True) (answers_bracket hq fun tx t ht _ => ?_) fun x t _ => ?_
  · refine answers_ask ht rfl fun r _ _ t ht => ?_
    refine answers_ensure fun hpending => ?_
    refine answers_ask ht rfl fun sheet _ _ t ht => ?_
    refine answers_ask ht rfl fun offer _ _ t ht => ?_
    exact answers_ask ht rfl fun lines _ _ t ht => answers_pure trivial
  · exact Brings.bind (answers_deliver _) fun undelivered _ _ => answers_pure trivial

/-- The end of a guarantee is answered. -/
theorem answers_setGuaranteeEnd (contract : Int) (at_ : Instant) (hq : s.Still) :
    Answers (fun _ _ => True) (setGuaranteeEnd contract at_) s := by
  refine answers_bracket hq fun tx t ht _ => ?_
  refine answers_ask ht rfl fun k _ _ t ht => ?_
  dsimp only
  split
  · exact fun _ _ => trivial
  · exact answers_last ht rfl

/-- A new ceiling is answered. -/
theorem answers_addCeiling (rate : Decimal) (affectedFrom : Instant) (hq : s.Still) :
    Answers (fun _ _ => True) (addCeiling rate affectedFrom now) s := by
  refine answers_ensureSound ?_
  exact answers_bracket hq fun tx t ht _ => answers_last ht rfl

/-- A look that is one call. -/
theorem answers_look {c : Call} (hc : c.isDeal = false) (hq : s.Still) :
    Answers (fun _ _ => True) (look fun tx => ask tx c) s :=
  answers_bracket hq fun _ _ ht _ => answers_last ht hc

/-- A question for an overview is answered. -/
theorem answers_overview (id : Int) (hq : s.Still) :
    Answers (fun _ _ => True) (overview id) s := by
  refine answers_bracket hq fun tx t ht _ => ?_
  refine answers_ask ht rfl fun request _ _ t ht => ?_
  refine answers_ask ht rfl fun lines _ _ t _ => ?_
  exact answers_pure trivial

/-- The calls of the two transactions never fail, so it does not matter that they are mixed. -/
theorem answers_listOverviews (f : RequestFilter) (page : Page) (hq : s.Still) :
    Answers (fun _ _ => True) (listOverviews f page) s := by
  refine answers_bracket hq fun pageTx s₁ _ hq₁ => ?_
  refine answers_bracket hq₁ fun countTx s₂ _ _ => ?_
  refine answers_sure (fun _ => ⟨_, rfl⟩) fun requests s₃ => ?_
  refine answers_sure (fun _ => ⟨_, rfl⟩) fun total s₄ => ?_
  refine answers_sure (fun _ => ⟨_, rfl⟩) fun lines s₅ => ?_
  exact answers_pure trivial

/-- **Whatever is asked, a failure is about the question**, where the store works and nobody else is
at work in it. -/
theorem answers_action (o : Operation) (hq : s.Rests) :
    Answers (fun _ _ => True) (o.action caller now) s := by
  cases o with
  | openRequest c => exact answers_openRequest c hq.still
  | deleteRequest id =>
    by_cases hc : s.rows.Deletable id
    · exact answers_of_alone (succeeds_deleteRequest hq hc)
    · exact (refuses_deleteRequest hq hc).answers
  | overview id => exact answers_overview id hq.still
  | listOverviews f page => exact answers_listOverviews f page hq.still
  | propose c => exact answers_propose c hq.still
  | offersFor investor =>
    exact answers_ensure fun _ => answers_look (c := .offersOfInvestor investor) rfl hq.still
  | confirm c =>
    by_cases hc : ∃ l, s.rows.Confirmable c l
    · exact hc.elim fun l hl => answers_of_alone (succeeds_confirm hq hl)
    · exact (refuses_confirm hq (not_exists.1 hc)).answers
  | accept c =>
    by_cases hc : s.rows.Acceptable caller.actor now c
    · exact answers_of_alone (succeeds_accept hq hc)
    · exact (refuses_accept hq hc).answers
  | createPackage line =>
    by_cases hc : s.rows.Packageable line
    · exact answers_of_alone (succeeds_createPackage hq hc)
    · exact (refuses_createPackage hq hc).answers
  | setGuaranteeEnd contract at_ => exact answers_setGuaranteeEnd contract at_ hq.still
  | cancel c => exact answers_cancel c hq.still
  | decline offer =>
    by_cases hc : s.rows.Declinable caller.actor offer
    · exact answers_of_alone (succeeds_decline hq hc)
    · exact (refuses_decline hq hc).answers
  | withdraw symbol => exact answers_withdraw symbol hq.still
  | addCeiling rate affectedFrom => exact answers_addCeiling rate affectedFrom hq.still
  | currentCeiling => exact answers_look (c := .currentCeiling now) rfl hq.still
  | listJobs kind limit =>
    exact answers_look (c := .listJobs kind (Page.clampLimit limit)) rfl hq.still

end Rest
end Desk

end LoanDesk
