/-
# Holding a line beside other bids

What a bid has read may have moved on when it locks the request. It finds the same offer and the same
request then (`Desk.offerIn_eq`). Where nobody was faster the request is open still, and the bid holds
its line as it was at the start; where somebody was, the bid is told that it came too late
(`Desk.contest_hold`).
-/

import LoanDesk.Proofs.Race.Bid.Rows
import LoanDesk.Proofs.Race.Lane

namespace LoanDesk

open LineStatus (canMove)

namespace Store

/-- An offer with its request, as the rows have them. -/
def offerIn (id : Int) (rows : Rows) : Except StoreError (Offer × Request) := do
  let o ← Book.found (.notFound "offer" id) (rows.offers.get? id)
  return (o, ← Book.found (.notFound "request" o.request) (rows.requests.get? o.request))

/-- What is found in a store is found in its book. -/
theorem orError_apply {α : Type} (e : StoreError) (a? : Option α) (s : Store) :
    orError e a? s = (Book.found e a?, s) := by
  cases a? <;> rfl

/-- An offer with its request is read as the transaction sees them. -/
theorem perform_offerWithRequest (s : Store) (tx : TxId) (id : Int) :
    s.perform tx (.offerWithRequest id) = (offerIn id (s.view tx), s) := by
  change (orError _ ((s.view tx).offers.get? id) >>= fun o =>
    request tx o.request >>= fun r => pure (o, r)) s = _
  unfold offerIn
  rw [bind_apply, orError_apply]
  cases (s.view tx).offers.get? id with
  | none => rfl
  | some o =>
    change (orError _ ((s.view tx).requests.get? o.request) >>= fun r => pure (o, r)) s =
      (Book.found _ ((s.view tx).requests.get? o.request) >>= fun r => pure (o, r), s)
    rw [bind_apply, orError_apply]
    cases (s.view tx).requests.get? o.request <;> rfl

end Store

/-- The course of a race for an open request, from a state of the desk on. -/
structure Course.Sound {ι : Type} (C : Course ι) : Prop where
  linked : C.start.Linked
  paired : C.start.rows.Paired fun _ => False
  keyed : ∀ w, (C.rows w).Keyed
  later : ∀ w, C.start.rows.Later (C.rows w)
  pending : ∃ r, C.start.rows.requests.get? C.request = some r ∧ r.isPending
  closed : ∀ k r, (C.finish k).requests.get? C.request = some r → r.isPending = false

/-- The request of a line that is held is stored. -/
theorem Course.Sound.request_of_in {ι : Type} {C : Course ι} (hC : C.Sound) {h : Desk.Held}
    (hh : h.In C.start.rows) : C.start.rows.requests.get? h.request.id = some h.request := by
  have hget := hh.request
  rw [← hC.linked.keyed.requests _ _ hget] at hget
  exact hget

namespace Desk

open Program

variable {ι : Type} {C : Course ι} {i : ι} {ℓ : Lane ι} {tx : TxId}

/-- A line that is the only one with its number is found. -/
theorem findLine_of_mem {lines : List Line} {l : Line} (hl : l ∈ lines)
    (hu : ∀ m ∈ lines, m.id = l.id → m = l) : findLine lines l.id = pure l := by
  have hfind : lines.find? (·.id == l.id) = some l := by
    cases h : lines.find? (·.id == l.id) with
    | none => exact absurd (List.find?_eq_none.1 h l hl) (by simp)
    | some m =>
      have hm := hu m (List.mem_of_find?_eq_some h) (by simpa using List.find?_some h)
      rw [hm]
  unfold findLine
  rw [hfind]

section Rules

variable {σ α β : Type} {S : Setting σ} {Q : β → σ → Prop} {E : Failure → σ → Prop} {s : σ}

/-- A body goes on with the line that it looks for. -/
theorem brings_findLine_of_mem {lines : List Line} {l : Line} {f : Line → Action β} (hl : l ∈ lines)
    (hu : ∀ m ∈ lines, m.id = l.id → m = l) (h : Brings S Q E (f l) s) :
    Brings S Q E (findLine lines l.id >>= f) s := by
  rw [findLine_of_mem hl hu]
  exact h

/-- A body goes on after a check that succeeds. -/
theorem brings_ensure_ok {r : Except Refusal Unit} {f : Unit → Action β} (hr : r = .ok ())
    (h : Brings S Q E (f ()) s) : Brings S Q E (ensure r >>= f) s := by
  rw [hr]
  exact h

/-- A body ends with a check that fails. -/
theorem brings_ensure_error {r : Except Refusal Unit} {f : Unit → Action β} {e : Refusal}
    (hr : r = .error e) (h : ∀ t, S.others s t → E (.refused e) t) :
    Brings S Q E (ensure r >>= f) s := by
  rw [hr]
  exact h

end Rules

/-- A move is allowed, or it is refused as a bad one. -/
theorem ensureMove_cases (flow : Flow) (source target : LineStatus) :
    source.ensureMove flow target = .ok () ∨
      source.ensureMove flow target = .error (.badMove source target flow) := by
  unfold LineStatus.ensureMove
  split
  · exact Or.inl rfl
  · exact Or.inr rfl

/-- The offer with its request, whoever may have won. -/
theorem offerIn_eq (hC : C.Sound) {h : Held} (hh : h.In C.start.rows)
    (hr : h.offer.request = C.request) (w : Option ι) :
    ∃ r, Store.offerIn h.offer.id (C.rows w) = .ok (h.offer, r) ∧
      (C.rows w).requests.get? C.request = some r ∧ r.investor = h.request.investor := by
  obtain ⟨r, hget, -, hinvestor⟩ := (hC.later w).request hh.request
  refine ⟨r, ?_, by rw [← hr]; exact hget, hinvestor⟩
  have ho := hh.offer
  rw [← hC.linked.keyed.offers _ _ ho] at ho
  unfold Store.offerIn
  rw [(hC.later w).offers, ho]
  change (Book.found _ ((C.rows w).requests.get? h.offer.request) >>= _) = _
  rw [hget]
  rfl

/-- What follows on the lock where nobody was faster: the lines are those of the start. -/
theorem contest_hold_first (hC : C.Sound) {h : Held} (hh : h.In C.start.rows)
    (hr : h.offer.request = C.request) (hl : h.line.isPending) {target : LineStatus}
    (hmove : canMove h.offer.flow .pending target) (hℓ : C.Holds i tx none C.start ℓ)
    {E : Failure → Lane ι → Prop} :
    Brings (C.contest i) (fun h' m => h' = h ∧ C.Holds i tx none C.start m) E
      (do
        let l ← findLine (← ask tx (.lockLinesOfOffer h.offer.id)) h.line.id
        ensure (l.status.ensureMove h.offer.flow target)
        ensure h.request.ensurePending
        return ⟨h.request, h.offer, l⟩) ℓ := by
  have hkeyed := hC.linked.keyed
  have hmem : h.line ∈ C.start.rows.lines.values.filter (·.offer == h.offer.id) :=
    List.mem_filter.2 ⟨hkeyed.lines.mem_values.2 hh.line, by
      simpa using (hkeyed.offers _ _ hh.offer).symm⟩
  refine Brings.holds hℓ (Book.lockLinesOfOffer_eq_ok.2
    ⟨rfl, List.ne_nil_of_mem hmem, fun _ _ => rfl, rfl⟩) fun m hm => ?_
  refine brings_findLine_of_mem hmem (fun l hl hid => ?_) ?_
  · have hl := hkeyed.lines.mem_values.1 (List.mem_filter.1 hl).1
    rw [hid, hh.line] at hl
    exact (Option.some.inj hl).symm
  refine brings_ensure_ok ?_ (brings_ensure_ok ?_ (Brings.pure fun t ht => ⟨rfl, hm.others ht⟩))
  · have hs : h.line.status = .pending := by simpa [Line.isPending] using hl
    rw [hs, LineStatus.ensureMove, if_pos hmove]
  · obtain ⟨r, hget, hpending⟩ := hC.pending
    have hget' := hh.request
    rw [hr, hget] at hget'
    rw [Request.ensurePending, ← Option.some.inj hget', if_pos hpending]

/-- What follows on the lock where somebody was faster: the request is not open any more, and the
line may have moved on as well. -/
theorem contest_hold_late (hC : C.Sound) {h : Held} (hh : h.In C.start.rows) {k : ι} {r : Request}
    (hr : (C.finish k).requests.get? C.request = some r) {last : Int}
    (hℓ : C.Holds i tx (some k) ⟨C.finish k, last⟩ ℓ) (target : LineStatus)
    {Q : Held → Lane ι → Prop} :
    Brings (C.contest i) Q (fun e m => C.Beaten i tx m ∧ e.IsTooLate)
      (do
        let l ← findLine (← ask tx (.lockLinesOfOffer h.offer.id)) h.line.id
        ensure (l.status.ensureMove h.offer.flow target)
        ensure r.ensurePending
        return ⟨r, h.offer, l⟩) ℓ := by
  obtain ⟨l, hl, hlid, hlo, -⟩ := (hC.later (some k)).line hh.line
  have hkeyed := (hC.keyed (some k)).lines
  have hmem : l ∈ (C.finish k).lines.values.filter (·.offer == h.offer.id) := by
    refine List.mem_filter.2 ⟨Table.mem_values.2 ⟨_, hl⟩, ?_⟩
    simpa using hlo.trans (hC.linked.keyed.offers _ _ hh.offer).symm
  refine Brings.holds hℓ (Book.lockLinesOfOffer_eq_ok.2
    ⟨rfl, List.ne_nil_of_mem hmem, fun _ _ => rfl, rfl⟩) fun m hm => ?_
  rw [← hlid]
  refine brings_findLine_of_mem hmem (fun l' hl' hid => ?_) ?_
  · have hl' := hkeyed.mem_values.1 (List.mem_filter.1 hl').1
    rw [hid, hlid] at hl'
    exact Option.some.inj (hl'.symm.trans hl)
  rcases ensureMove_cases h.offer.flow l.status target with hmove | hmove
  · refine brings_ensure_ok hmove (brings_ensure_error (e := .finalized r.id r.status) ?_
      fun t ht => ⟨hm.beaten.others ht, trivial⟩)
    rw [Request.ensurePending, hC.closed k r hr, if_neg Bool.false_ne_true]
  · exact brings_ensure_error hmove fun t ht => ⟨hm.beaten.others ht, trivial⟩

/-- **A bid gets hold of what it is after, or is too late.** -/
theorem contest_hold (hC : C.Sound) {h : Held} (hh : h.In C.start.rows)
    (hr : h.offer.request = C.request) {target : LineStatus}
    (hmove : ∀ flow, flow ≠ .unspecified → canMove flow .pending target)
    (hℓ : C.Looks i tx ℓ) (hl : ℓ.winner = none → h.line.isPending) :
    Brings (C.contest i) (fun h' m => h' = h ∧ ℓ.winner = none ∧ C.Holds i tx none C.start m)
      (fun e m => C.Beaten i tx m ∧ e.IsTooLate) (hold tx h.offer.id h.line.id target) ℓ := by
  refine Brings.looks (Store.perform_offerWithRequest · tx h.offer.id) hℓ fun m hm hbefore => ?_
  obtain ⟨r, hread, hget, -⟩ := offerIn_eq hC hh hr m.winner
  refine ⟨(h.offer, r), hread, ?_⟩
  dsimp only
  rw [(hC.keyed m.winner).requests _ _ hget]
  refine Brings.locks hm hC.keyed (fun w => ?_) (fun m hm => ⟨hm, trivial⟩)
    (fun r m' hget hnone hm' => ?_) fun k r last m' hget hm' => contest_hold_late hC hh hget hm' target
  · obtain ⟨r, -, hget, -⟩ := offerIn_eq hC hh hr w
    exact ⟨r, hget⟩
  · obtain rfl : r = h.request := by
      have hget' := hh.request
      rw [hr, hget] at hget'
      exact Option.some.inj hget'
    have hwinner := hbefore hnone
    refine (contest_hold_first hC hh hr (hl hwinner) (hmove _ ?_) hm').mono ?_ fun _ _ => id
    · exact hC.linked.flow _ _ hh.offer
    · exact fun h' m ⟨hh', hm⟩ => ⟨hh', hwinner, hm⟩

end Desk
end LoanDesk
