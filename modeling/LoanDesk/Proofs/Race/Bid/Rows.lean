/-
# What bids for a request make of the rows

A bid is one call that accepts a line of a request, by the investor or by an administrator. What it
leaves when nobody disturbs it is known from the rows at the start (`Bid.Leaves`), and any bid that
fits leaves something (`Bid.Fits.leaves`).

A bid reads before it locks, so it may have read what somebody else has left meanwhile. Such rows are
the rows of the start with some lines and requests moved on (`Rows.Later`).
-/

import LoanDesk.Proofs.Desk.Order
import LoanDesk.Proofs.Desk.Paired

namespace LoanDesk

/-- A call that accepts a line of a request. -/
inductive Bid where
  | accept (c : Acceptance) (caller : Caller) (now : Instant)
  | confirm (c : Confirmation) (caller : Caller) (now : Instant)

/-- The steps of a bid. -/
def Bid.program : Bid → Program (Except Failure AcceptOutcome)
  | accept c caller now => (Desk.accept c caller now).run
  | confirm c caller now => (Desk.confirm c caller now).run

/-- Somebody else is at the request or has been there. -/
def Failure.IsTooLate : Failure → Prop
  | .busy _ _ | .refused (.badMove _ _ _) | .refused (.finalized _ _) => True
  | _ => False

namespace Rows

/-! ### What somebody else may have left -/

/-- Some lines and requests have moved on. -/
structure Later (rows rows' : Rows) : Prop where
  offers : rows'.offers = rows.offers
  requests : ∃ f : Request → Request, (∀ r, (f r).id = r.id ∧ (f r).investor = r.investor) ∧
    rows'.requests = rows.requests.map f
  lines : ∃ f : Line → Line, (∀ l, (f l).id = l.id ∧ (f l).offer = l.offer ∧
    (f l).request = l.request ∧ (f l).loan = l.loan) ∧ rows'.lines = rows.lines.map f

namespace Later

variable {rows rows' rows'' : Rows}

/-- Nothing has moved on. -/
theorem refl (rows : Rows) : Later rows rows :=
  ⟨rfl, ⟨id, fun _ => ⟨rfl, rfl⟩, (Table.map_id _).symm⟩,
    ⟨id, fun _ => ⟨rfl, rfl, rfl, rfl⟩, (Table.map_id _).symm⟩⟩

/-- What moves on twice has moved on. -/
theorem trans (h : Later rows rows') (h' : Later rows' rows'') : Later rows rows'' where
  offers := h'.offers.trans h.offers
  requests := by
    obtain ⟨f, hf, he⟩ := h.requests
    obtain ⟨g, hg, he'⟩ := h'.requests
    refine ⟨g ∘ f, fun r => ⟨(hg _).1.trans (hf r).1, (hg _).2.trans (hf r).2⟩, ?_⟩
    rw [he', he, Table.map_map]
  lines := by
    obtain ⟨f, hf, he⟩ := h.lines
    obtain ⟨g, hg, he'⟩ := h'.lines
    refine ⟨g ∘ f, fun l => ?_, by rw [he', he, Table.map_map]⟩
    obtain ⟨hi, ho, hr, hl⟩ := hf l
    obtain ⟨hi', ho', hr', hl'⟩ := hg (f l)
    exact ⟨hi'.trans hi, ho'.trans ho, hr'.trans hr, hl'.trans hl⟩

/-- Requests move on. -/
theorem mapRequests {f : Request → Request}
    (hf : ∀ r, (f r).id = r.id ∧ (f r).investor = r.investor) :
    Later rows { rows with requests := rows.requests.map f } :=
  ⟨rfl, ⟨f, hf, rfl⟩, (refl rows).lines⟩

/-- Lines move on. -/
theorem mapLines {f : Line → Line} (hf : ∀ l, (f l).id = l.id ∧ (f l).offer = l.offer ∧
    (f l).request = l.request ∧ (f l).loan = l.loan) :
    Later rows { rows with lines := rows.lines.map f } :=
  ⟨rfl, (refl rows).requests, ⟨f, hf, rfl⟩⟩

/-- Requests move on in their status. -/
theorem setRequests (p : Request → Bool) (status : RequestStatus) (now : Instant) :
    Later rows (rows.setRequests p status now) :=
  mapRequests fun r => by split <;> exact ⟨rfl, rfl⟩

/-- Lines move on in their status. -/
theorem setLines (p : Line → Bool) (status : LineStatus) (now : Instant) :
    Later rows (rows.setLines p status now) :=
  mapLines fun l => by split <;> exact ⟨rfl, rfl, rfl, rfl⟩

/-- Lines move on when they are cancelled. -/
theorem cancel (p : Line → Bool) (by_ : String) (reason : CancelReason) (now : Instant) :
    Later rows (rows.cancel p by_ reason now) :=
  mapLines fun l => by split <;> exact ⟨rfl, rfl, rfl, rfl⟩

/-- Lines move on when they get their contract. -/
theorem attach (line contract : Int) (now : Instant) :
    Later rows (rows.attach line contract now) :=
  mapLines fun l => by split <;> exact ⟨rfl, rfl, rfl, rfl⟩

/-- A contract is stored, and nothing moves on. -/
theorem putContract (k : Contract) : Later rows (rows.putContract k) :=
  ⟨rfl, (refl rows).requests, (refl rows).lines⟩

/-- A line is taken, and with it all moves on. -/
theorem take (h : Desk.Held) (status : LineStatus) (by_ : String) (now : Instant) :
    Later rows (rows.take h status by_ now) :=
  (((setLines _ status now).trans (cancel _ _ _ _)).trans (cancel _ _ _ _)).trans (setRequests _ _ _)

/-- A contract is stored and attached to its line. -/
theorem sign (k : Contract) (now : Instant) : Later rows (rows.sign k now) :=
  (putContract k).trans (attach _ _ _)

/-- A request that has moved on is still there. -/
theorem request (h : Later rows rows') {i : Int} {r : Request} (hr : rows.requests.get? i = some r) :
    ∃ r', rows'.requests.get? i = some r' ∧ r'.id = r.id ∧ r'.investor = r.investor := by
  obtain ⟨f, hf, he⟩ := h.requests
  exact ⟨f r, by rw [he]; exact Table.get?_map_eq_some.2 ⟨r, hr, rfl⟩, hf r⟩

/-- A line that has moved on is still there. -/
theorem line (h : Later rows rows') {i : Int} {l : Line} (hl : rows.lines.get? i = some l) :
    ∃ l', rows'.lines.get? i = some l' ∧ l'.id = l.id ∧ l'.offer = l.offer ∧
      l'.request = l.request ∧ l'.loan = l.loan := by
  obtain ⟨f, hf, he⟩ := h.lines
  exact ⟨f l, by rw [he]; exact Table.get?_map_eq_some.2 ⟨l, hl, rfl⟩, hf l⟩

/-- A line that is there now was there before. -/
theorem line_before (h : Later rows rows') {i : Int} {l' : Line}
    (hl : rows'.lines.get? i = some l') : ∃ l, rows.lines.get? i = some l ∧ l'.id = l.id ∧
      l'.offer = l.offer ∧ l'.request = l.request ∧ l'.loan = l.loan := by
  obtain ⟨f, hf, he⟩ := h.lines
  rw [he] at hl
  obtain ⟨l, hget, rfl⟩ := Table.get?_map_eq_some.1 hl
  exact ⟨l, hget, hf l⟩

end Later
end Rows

/-! ### What a bid leaves by itself -/

namespace Desk

/-- The lines that an administrator may choose from. -/
def candidates (c : Confirmation) (rows : Rows) : List Line :=
  (newestFirst (fun l => (l.createdAt, l.id))
    (rows.lines.values.filter fun l => [c.request].contains l.request)).filter (·.loan == c.loan)

/-- The candidates are the lines of the request with the loan. -/
theorem mem_candidates {c : Confirmation} {rows : Rows} {l : Line} :
    l ∈ candidates c rows ↔ l ∈ rows.lines.values ∧ l.request = c.request ∧ l.loan = c.loan := by
  unfold candidates
  rw [List.mem_filter, mem_newestFirst, List.mem_filter]
  simp [and_assoc]

/-- Between two lines the choice falls on one that is open if either of them is. -/
theorem isPending_better {a b l : Line} (h : (if isBetter a b then some a else some b) = some l) :
    (a.isPending → l.isPending) ∧ (b.isPending → l.isPending) := by
  unfold isBetter at h
  grind

/-- There is a choice among lines, and it is open if any of them is. -/
theorem bestFrom_of_mem {l : Line} : ∀ {ls : List Line} {b? : Option Line},
    (l ∈ ls ∨ ∃ b, b? = some b ∧ (l.isPending → b.isPending)) →
      ∃ b, bestFrom b? ls = some b ∧ (l.isPending → b.isPending)
  | [], b?, h => by
    obtain ⟨b, rfl, hb⟩ := h.resolve_left List.not_mem_nil
    exact ⟨b, by rw [bestFrom], hb⟩
  | x :: xs, none, h => by
    rw [bestFrom]
    refine bestFrom_of_mem ?_
    have hnone : ¬∃ b, (none : Option Line) = some b ∧ (l.isPending → b.isPending) := by simp
    rcases List.mem_cons.1 (h.resolve_right hnone) with rfl | h
    · exact Or.inr ⟨l, rfl, id⟩
    · exact Or.inl h
  | x :: xs, some b, h => by
    rw [bestFrom]
    refine bestFrom_of_mem ?_
    obtain ⟨c, hc⟩ : ∃ c, (if isBetter x b then some x else some b) = some c := by
      split <;> exact ⟨_, rfl⟩
    obtain ⟨hx, hb⟩ := isPending_better hc
    rcases h with h | ⟨b', hb', hp⟩
    · rcases List.mem_cons.1 h with rfl | h
      · exact Or.inr ⟨c, hc, hx⟩
      · exact Or.inl h
    · cases hb'
      exact Or.inr ⟨c, hc, fun h => hb (hp h)⟩

/-- Among some lines there is a best one, and it is open if any is. -/
theorem best?_of_mem {lines : List Line} {l : Line} (hl : l ∈ lines) :
    ∃ b, best? lines = some b ∧ (l.isPending → b.isPending) := by
  rw [best?_eq]
  exact bestFrom_of_mem (Or.inl hl)

end Desk

/-- A bid that may be made for a request. The investor's is for an open line of an offer online,
made in time and for the owner of the request; the administrator's names a loan of an open line. -/
inductive Bid.Fits (request : Int) (rows : Rows) : Bid → Prop
  | accept {c : Acceptance} {caller : Caller} {now : Instant} {r : Request} {o : Offer} {l : Line}
    (hr : rows.requests.get? request = some r) (ho : rows.offers.get? c.offer = some o)
    (hl : rows.lines.get? c.line = some l) (hor : o.request = request) (hlo : l.offer = c.offer)
    (hp : l.isPending) (honline : o.flow = .online) (hx : o.isExpired now = false)
    (hs : ∀ id, caller.actor = .investor id → id = r.investor) :
    Fits request rows (.accept c caller now)
  | confirm {c : Confirmation} {caller : Caller} {now : Instant} {i : Int} {l : Line}
    (hc : c.request = request) (hl : rows.lines.get? i = some l) (hlr : l.request = request)
    (hll : l.loan = c.loan) (hp : l.isPending) : Fits request rows (.confirm c caller now)

/-- The rows that a bid leaves by itself: the line that is taken is open and of an offer for the
request. -/
inductive Bid.Leaves (request : Int) (b : Book) : Bid → Rows → Prop
  | accept {h : Desk.Held} {caller : Caller} {now : Instant} (hh : h.In b.rows)
    (hr : h.offer.request = request) (hl : h.line.isPending)
    (hs : caller.actor.ensureScope h.request.investor = .ok ()) (ho : h.offer.flow = .online)
    (hx : h.offer.isExpired now = false) :
    Leaves request b (.accept ⟨h.offer.id, h.line.id⟩ caller now)
      (b.rows.take h .creatingPackage caller.name now)
  | confirm {h : Desk.Held} {c : Confirmation} {caller : Caller} {now : Instant}
    (hh : h.In b.rows) (hr : h.offer.request = request) (hl : h.line.isPending)
    (hb : Desk.best? (Desk.candidates c b.rows) = some h.line) :
    Leaves request b (.confirm c caller now) ((b.rows.take h .packageCreated caller.name now).sign
      ((ContractDraft.forLine h.request h.line).toContract (b.last + 1) now) now)

namespace Bid

variable {request : Int} {b : Book} {bid : Bid} {rows : Rows}

/-- An investor may act for himself, and anybody else for all. -/
theorem ensureScope_of_owner {actor : Actor} {owner : Int}
    (h : ∀ id, actor = .investor id → id = owner) : actor.ensureScope owner = .ok () := by
  cases actor with
  | investor id => exact if_pos (h id rfl)
  | admin name => rfl
  | system name => rfl

/-- Every bid that may be made would leave something. -/
theorem Fits.leaves (h : bid.Fits request b.rows) (hb : b.Linked)
    (hr : ∃ r, b.rows.requests.get? request = some r) : ∃ rows, bid.Leaves request b rows := by
  cases h with
  | @accept c caller now r o l hr ho hl hor hlo hp honline hx hs =>
    have hoid : o.id = c.offer := hb.keyed.offers _ _ ho
    have hlid : l.id = c.line := hb.keyed.lines _ _ hl
    have hh : (⟨r, o, l⟩ : Desk.Held).In b.rows :=
      .of_get? hb.keyed (by rw [hor]; exact hr) (by rw [hlo]; exact ho) hl
    obtain ⟨offer, line⟩ := c
    dsimp only at hoid hlid
    subst hoid hlid
    exact ⟨_, .accept hh hor hp (ensureScope_of_owner hs) honline hx⟩
  | @confirm c caller now i l hc hl hlr hll hp =>
    obtain ⟨r, hr⟩ := hr
    obtain ⟨y, hy, hyp⟩ := Desk.best?_of_mem (Desk.mem_candidates.2
      ⟨Table.mem_values.2 ⟨i, hl⟩, hlr.trans hc.symm, hll⟩)
    obtain ⟨hmem, hyr, -⟩ := Desk.mem_candidates.1 (Desk.best?_mem hy)
    have hget := hb.keyed.lines.mem_values.1 hmem
    obtain ⟨o, ho, hor⟩ := hb.line _ _ hget
    have hor : o.request = request := hor.trans (hyr.trans hc)
    exact ⟨_, .confirm (h := ⟨r, o, y⟩) ⟨by rw [hor]; exact hr, ho, hget⟩ hor (hyp hp) hy⟩

/-- What a bid leaves are rows that have moved on. -/
theorem Leaves.later (h : bid.Leaves request b rows) : b.rows.Later rows := by
  cases h with
  | accept hh hr hl hs ho hx => exact .take _ _ _ _
  | confirm hh hr hl hb => exact (Rows.Later.take _ _ _ _).trans (.sign _ _)

/-- What a bid leaves stands under its own numbers. -/
theorem Leaves.keyed (h : bid.Leaves request b rows) (hb : b.Linked) : rows.Keyed := by
  cases h with
  | accept hh hr hl hs ho hx => exact (hb.take _ _ _ _).keyed
  | confirm hh hr hl hbest =>
    refine ((hb.take _ _ _ _).sign ?_ _).keyed
    exact Int.lt_succ b.last

/-- Whoever wins, the request is not open any more. -/
theorem Leaves.closed (h : bid.Leaves request b rows) {r : Request}
    (hr : rows.requests.get? request = some r) : r.isPending = false := by
  have htake : ∀ {x : Desk.Held} {status : LineStatus} {by_ : String} {now : Instant},
      x.In b.rows → x.offer.request = request →
        (b.rows.take x status by_ now).requests.get? request = some r → r.isPending = false := by
    intro x status by_ now hx he hget
    rw [← he, Rows.get?_requests_take hx.request] at hget
    rw [← Option.some.inj hget]
    rfl
  cases h with
  | accept hh he hl hs ho hx => exact htake hh he hr
  | confirm hh he hl hb => exact htake hh he hr

end Bid

end LoanDesk
