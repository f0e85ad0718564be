/-
# Deeds

`Deed t b b'` says that a commit in the course of the task `t` turned the book `b` of what is stored
into `b'`. There is one constructor for each change that the desk and the jobs make. It lists what
was checked before and gives the rows afterwards in full; numbers that others took meanwhile are
missing, so new ones are only known to be greater than the last.

`Rows.take` is the part that both ways of accepting a line have in common. `Operation.Tells` goes
with the deeds: it says what an operation tells investors once its change is stored.
-/

import LoanDesk.Proofs.Desk.Operation
import LoanDesk.Proofs.Store.Answers
import LoanDesk.Proofs.Store.Pending

namespace LoanDesk

open LineStatus (canMove)

/-- The rows that were held are stored, and belong together. -/
structure Desk.Held.In (h : Desk.Held) (rows : Rows) : Prop where
  request : rows.requests.get? h.offer.request = some h.request
  offer : rows.offers.get? h.line.offer = some h.offer
  line : rows.lines.get? h.line.id = some h.line

/-- Rows that are looked up by each other's numbers belong together. -/
theorem Desk.Held.In.of_get? {rows : Rows} (hk : rows.Keyed) {line : Int} {o : Offer} {r : Request}
    {l : Line} (hr : rows.requests.get? o.request = some r)
    (ho : rows.offers.get? l.offer = some o) (hl : rows.lines.get? line = some l) :
    (⟨r, o, l⟩ : Desk.Held).In rows :=
  ⟨hr, ho, by rw [hk.lines _ _ hl]; exact hl⟩

namespace Rows

/-- A line moves on, every other open line of its request is cancelled, and the request is
confirmed. -/
def take (rows : Rows) (h : Desk.Held) (status : LineStatus) (by_ : String) (now : Instant) : Rows :=
  let marked := rows.setLines (fun l => [h.line.id].contains l.id) status now
  let cleared := (marked.cancel (·.offer == h.offer.id) by_ .alternativeOption now).cancel
    (fun l => [h.request.id].contains l.request) by_ .alternativeOption now
  cleared.setRequests (·.id == h.request.id) .confirmed now

/-- How many other open lines there are when a line is taken: those of its offer, and those of the
other offers of its request. -/
def alternatives (rows : Rows) (h : Desk.Held) : Nat × Nat :=
  ((rows.pendingLines fun l => l.id != h.line.id && l.offer == h.offer.id).length,
    (rows.pendingLines fun l =>
      l.id != h.line.id && l.offer != h.offer.id && l.request == h.request.id).length)

/-- Once the line has moved on, the open lines of its offer are its alternatives there, and the open
lines of the request on other offers those elsewhere. -/
theorem alternatives_marked (rows : Rows) (h : Desk.Held) {status : LineStatus}
    (hs : status ≠ .pending) (now : Instant) :
    let marked := rows.setLines (fun l => [h.line.id].contains l.id) status now
    ((marked.pendingLines (·.offer == h.offer.id)).length,
      (marked.pendingLines fun l =>
        !(l.offer == h.offer.id) && [h.request.id].contains l.request).length) =
      rows.alternatives h := by
  intro marked
  have hone (x y : Int) : [x].contains y = (y == x) := by
    rw [List.contains_cons, List.contains_nil, Bool.or_false]
  have hmarked (p : Line → Bool) :
      marked.pendingLines p = rows.pendingLines fun l => l.id != h.line.id && p l := by
    rw [pendingLines_setLines hs]
    simp only [hone]
    rfl
  rw [alternatives, hmarked, hmarked]
  simp only [hone, Bool.and_assoc]
  rfl

/-- A contract is stored, and its line refers to it. -/
def sign (rows : Rows) (k : Contract) (now : Instant) : Rows :=
  (rows.putContract k).attach k.line k.id now

/-- Requests are confirmed, and their open lines cancelled. -/
def shut (rows : Rows) (ids : List Int) (by_ : String) (reason : CancelReason) (now : Instant) :
    Rows :=
  (rows.cancel (fun l => ids.contains l.request) by_ reason now).setRequests
    (fun r => ids.contains r.id) .confirmed now

end Rows

/-- The changes that tasks make, each in one commit. -/
inductive Deed : Task → Book → Book → Prop
  | openRequest {c : OpenRequest} {caller : Caller} {now : Instant} {b : Book} {n last : Int}
    (hs : caller.actor.ensureScope c.draft.investor = .ok ()) (hn : b.last < n)
    (hlast : n ≤ last) (hc : c.draft.flaw? = none) :
    Deed (.operate (.openRequest c) caller now) b ⟨b.rows.putRequest (c.draft.toRequest n now), last⟩
  | deleteRequest {caller : Caller} {now : Instant} {b : Book} {r : Request} {last : Int}
    (hr : b.rows.requests.get? r.id = some r) (hp : r.isPending)
    (hl : ∀ l ∈ b.rows.lines.values, l.request = r.id → l.status.isAccepted = false)
    (hlast : b.last ≤ last) :
    Deed (.operate (.deleteRequest r.id) caller now) b ⟨b.rows.removeRequest r.id, last⟩
  | propose {c : Proposal} {caller : Caller} {now : Instant} {b : Book} {r : Request}
    {sheet offer lines last : Int} (hc : Desk.proposalFlaw? c now = none)
    (hr : b.rows.requests.get? c.request = some r) (hp : r.isPending)
    (hs : b.last < sheet) (ho : sheet < offer) (hl : offer < lines)
    (hlast : lines + c.lines.length ≤ last + 1) :
    Deed (.operate (.propose c) caller now) b
      ⟨(LineDraft.toLines offer r.id now lines c.lines).foldl Rows.putLine
        ((b.rows.putSheet ⟨sheet, r.id, caller.name, c.terms, now⟩).putOffer
          ((⟨r.id, caller.name, c.flow, c.expiredAt⟩ : OfferDraft).toOffer offer now)), last⟩
  | confirm {c : Confirmation} {caller : Caller} {now : Instant} {b : Book} {h : Desk.Held}
    {n last : Int} (hh : h.In b.rows) (hc : h.line.request = c.request ∧ h.line.loan = c.loan)
    (hp : h.request.isPending) (hm : canMove h.offer.flow h.line.status .packageCreated)
    (hk : ∀ k ∈ b.rows.contracts.values, k.line ≠ h.line.id) (hn : b.last < n) (hlast : n ≤ last) :
    Deed (.operate (.confirm c) caller now) b
      ⟨(b.rows.take h .packageCreated caller.name now).sign
        ((ContractDraft.forLine h.request h.line).toContract n now) now, last⟩
  | accept {caller : Caller} {now : Instant} {b : Book} {h : Desk.Held} {last : Int}
    (hh : h.In b.rows) (hs : caller.actor.ensureScope h.request.investor = .ok ())
    (ho : h.offer.flow = .online) (hx : h.offer.isExpired now = false) (hp : h.request.isPending)
    (hm : canMove h.offer.flow h.line.status .creatingPackage) (hlast : b.last ≤ last) :
    Deed (.operate (.accept ⟨h.offer.id, h.line.id⟩) caller now) b
      ⟨b.rows.take h .creatingPackage caller.name now, last⟩
  | createPackage {caller : Caller} {now : Instant} {b : Book} {h : Desk.Held} {n last : Int}
    (hh : h.In b.rows) (hm : canMove h.offer.flow h.line.status .packageCreated)
    (hk : ∀ k ∈ b.rows.contracts.values, k.line ≠ h.line.id) (hn : b.last < n) (hlast : n ≤ last) :
    Deed (.operate (.createPackage h.line.id) caller now) b
      ⟨(b.rows.setLines (fun l => [h.line.id].contains l.id) .packageCreated now).sign
        ((ContractDraft.forLine h.request h.line).toContract n now) now, last⟩
  | setGuaranteeEnd {at_ : Instant} {caller : Caller} {now : Instant} {b : Book} {k : Contract}
    {last : Int} (hk : b.rows.contracts.get? k.id = some k) (hat : ¬at_ < k.createdAt)
    (hlast : b.last ≤ last) :
    Deed (.operate (.setGuaranteeEnd k.id at_) caller now) b ⟨b.rows.endGuarantee k.id at_, last⟩
  | cancel {c : Cancellation} {caller : Caller} {now : Instant} {b : Book} {r : Request}
    {ids : List Int} {last : Int} (hr : b.rows.requests.get? c.request = some r)
    (hids : ∀ id ∈ ids, ∃ l, b.rows.lines.get? id = some l ∧ l.request = r.id ∧ l.loan ∈ c.loans)
    (hlast : b.last ≤ last) (hflow : ∀ id ∈ ids, ∀ l, b.rows.lines.get? id = some l →
      ∃ o, b.rows.offers.get? l.offer = some o ∧ o.flow ≠ .unspecified) :
    Deed (.operate (.cancel c) caller now) b
      ⟨b.rows.cancel (fun l => ids.contains l.id) caller.name
        (if c.forInvestor then .investor else .admin) now, last⟩
  | decline {caller : Caller} {now : Instant} {b : Book} {o : Offer} {r : Request} {last : Int}
    (ho : b.rows.offers.get? o.id = some o) (hr : b.rows.requests.get? o.request = some r)
    (hs : caller.actor.ensureScope r.investor = .ok ()) (hlast : b.last ≤ last)
    (hflow : o.flow ≠ .unspecified) :
    Deed (.operate (.decline o.id) caller now) b
      ⟨b.rows.cancel (·.offer == o.id) caller.name .investor now, last⟩
  | withdraw {symbol : Int} {caller : Caller} {now : Instant} {b : Book} {rs : List Request}
    {last : Int} (hrs : ∀ r ∈ rs, b.rows.requests.get? r.id = some r ∧ r.isPending ∧ r.symbol = symbol)
    (hlast : b.last ≤ last) :
    Deed (.operate (.withdraw symbol) caller now) b
      ⟨b.rows.shut (rs.map (·.id)) caller.name .admin now, last⟩
  | addCeiling {rate : Decimal} {affectedFrom now : Instant} {caller : Caller} {b : Book}
    {n last : Int} (hn : b.last < n) (hlast : n ≤ last) (hc : Ceiling.flaw? rate = none) :
    Deed (.operate (.addCeiling rate affectedFrom) caller now) b
      ⟨b.rows.putCeiling ⟨n, rate, affectedFrom, now⟩, last⟩
  | expire {actor : String} {now : Instant} {b : Book} {last : Int} (hlast : b.last ≤ last) :
    Deed (.expire actor now) b
      ⟨b.rows.cancel (fun l => ((Store.expiredOffers b.rows now).map (·.id)).contains l.offer) actor
        .expired now, last⟩
  | declineBatch {actor : String} {batch : Int} {rounds : Nat} {now : Instant} {b : Book}
    {rate : Decimal} {rs : List Request} {last : Int}
    (hrs : ∀ r ∈ rs, b.rows.requests.get? r.id = some r ∧ r.isPending ∧ rate ≤ r.loanRate)
    (hlast : b.last ≤ last) :
    Deed (.decline actor batch rounds now) b
      ⟨b.rows.shut (rs.map (·.id)) actor .highLoanRate now, last⟩
  | record {t : Task} {e : JobEntry} {now : Instant} {b : Book} {n last : Int}
    (ht : t.IsJob) (hn : b.last < n) (hlast : n ≤ last) :
    Deed t b ⟨b.rows.putJob (e.toRecord n now), last⟩

/-! ### What is told -/

namespace Rows

variable {rows : Rows}

/-- The request of a line that is accepted is confirmed. -/
theorem get?_requests_take {h : Desk.Held} {i : Int} (hr : rows.requests.get? i = some h.request)
    (status : LineStatus) (by_ : String) (now : Instant) :
    (rows.take h status by_ now).requests.get? i =
      some { h.request with status := .confirmed, updatedAt := now } :=
  Table.get?_map_eq_some.2 ⟨h.request, hr, if_pos (by simp)⟩

/-- The request is stored and open. -/
def HasOpen (rows : Rows) (r : Request) : Prop :=
  rows.requests.get? r.id = some r ∧ r.isPending

/-- The request under the number is confirmed. -/
def HasConfirmed (rows : Rows) (id : Int) : Prop :=
  ∃ r, rows.requests.get? id = some r ∧ r.status = .confirmed

instance (rows : Rows) (id : Int) : Decidable (rows.HasConfirmed id) :=
  decidable_of_iff ((rows.requests.get? id).any (·.status == .confirmed))
    (by simp [HasConfirmed, Option.any_eq_true])

/-- No request is open and confirmed. -/
theorem HasOpen.not_confirmed {r : Request} (h : rows.HasOpen r) : ¬rows.HasConfirmed r.id := by
  rintro ⟨r', hr', hs⟩
  rw [h.1] at hr'
  obtain rfl := Option.some.inj hr'
  simpa [Request.isPending, hs] using h.2

/-- The request of a line that was held was open, and is confirmed when the line is taken. -/
theorem confirmed_take (hk : rows.Keyed) {h : Desk.Held} (hh : h.In rows)
    (hp : h.request.isPending) (status : LineStatus) (by_ : String) (now : Instant) :
    rows.HasOpen h.request ∧ (rows.take h status by_ now).HasConfirmed h.request.id := by
  have hr := hh.request
  rw [← hk.requests _ _ hr] at hr
  exact ⟨⟨hr, hp⟩, _, get?_requests_take hr status by_ now, rfl⟩

/-- A request that is still open when others are closed was open before. -/
theorem HasOpen.of_shut {ids : List Int} {by_ : String} {reason : CancelReason} {now : Instant}
    {r : Request} (h : (rows.shut ids by_ reason now).HasOpen r) : rows.HasOpen r := by
  obtain ⟨hr, hp⟩ := h
  obtain ⟨r', hr', he⟩ := Table.get?_map_eq_some.1 hr
  split at he
  · rw [← he] at hp
    cases hp
  · rw [he] at hr'
    exact ⟨hr', hp⟩

end Rows

namespace Operation

/-- The request of the line that an operation accepted. -/
def accepted? : (o : Operation) → o.Answer → Option Int
  | confirm _, outcome | accept _, outcome => some outcome.request
  | _, _ => none

/-- What an operation tells when it succeeds: what it gives, the events, and the rows before and
after fit together. The investor hears of his request while it is open, or one of its lines is; all
other operations are silent. -/
def Tells : (o : Operation) → o.Answer → List Event → Rows → Rows → Prop
  | confirm _, outcome, es, rows, rows' | accept _, outcome, es, rows, rows' =>
    ∃ r line contract, es = [.requestConfirmed (.of r) line contract] ∧ outcome.request = r.id ∧
      rows.HasOpen r ∧ rows'.HasConfirmed r.id
  | propose _, _, es, rows, _ => ∃ r offer, es = [.offerReady (.of r) offer] ∧ rows.HasOpen r
  | cancel _, _, es, rows, _ => es = [] ∨ ∃ r reason, es = [.requestDeclined (.of r) reason] ∧
      rows.requests.get? r.id = some r ∧
      ∃ i l, rows.lines.get? i = some l ∧ l.request = r.id ∧ l.isPending
  | withdraw _, _, es, rows, _ => ∃ rs : List Request,
      es = rs.map (fun r => .requestDeclined (.of r) .admin) ∧ ∀ r ∈ rs, rows.HasOpen r
  | _, _, es, _, _ => es = []

/-- What an operation gives, without the note on events that were not delivered. -/
def unheard : (o : Operation) → o.Answer → o.Answer
  | propose _, outcome => { outcome with undelivered := none }
  | confirm _, outcome | accept _, outcome => { outcome with undelivered := none }
  | cancel _, outcome => { outcome with undelivered := none }
  | withdraw _, outcome => { outcome with undelivered := [] }
  | _, outcome => outcome

end Operation

end LoanDesk
