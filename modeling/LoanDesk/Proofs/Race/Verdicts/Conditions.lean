/-
# When operations go through

For each of the five operations that take or cancel lines or delete requests there is a condition on
the rows. Where it holds the operation goes through to its end (`succeeds_accept` and its like); where
it does not the operation is refused on the way (`refuses_accept` and its like). The rows are at rest:
nobody is at work, and they are as tasks leave them (`Store.Rests`).

The package of a line is created where the line waits for it, but also where it is still open. A
request with a line that was taken like that is open and yet not deleted.
-/

import LoanDesk.Proofs.Race.Accepter
import LoanDesk.Proofs.Race.Verdicts.Answers

namespace LoanDesk

/-! ### Stores at rest -/

/-- Nobody is at work, and the rows are as tasks leave them. -/
structure Store.Rests (s : Store) : Prop where
  still : s.Still
  linked : s.stored.Linked
  tended : s.rows.desk.Tended
  paired : s.rows.OneToOne

namespace Store.Rests

variable {s : Store} {i : Int} {l : Line}

/-- Every line can be held with its offer and its request. -/
theorem held (h : s.Rests) (hl : s.rows.lines.get? i = some l) :
    ∃ x : Desk.Held, x.In s.rows ∧ x.line = l ∧ x.offer.flow ≠ .unspecified ∧
      x.request.id = l.request := by
  obtain ⟨o, ho, hreq⟩ := h.linked.line i l hl
  obtain ⟨r, hr⟩ := h.linked.offer _ o ho
  refine ⟨⟨r, o, l⟩, .of_get? h.still.keyed hr ho hl, rfl, h.linked.flow _ o ho, ?_⟩
  rw [h.still.keyed.requests _ r hr, hreq]

/-- The request of an open line is open. -/
theorem isPending (h : s.Rests) {x : Desk.Held} (hx : x.In s.rows) (hp : x.line.isPending) :
    x.request.isPending := by
  have hreq : x.line.request = x.offer.request := (h.tended.request_line hx.desk).symm
  cases hs : x.request.status with
  | pending => rw [Request.isPending, hs]; rfl
  | confirmed =>
    rw [h.tended.closed.confirmed _ _ hx.request hs _ _ hx.line hreq] at hp
    cases hp

/-- There is no contract for a line that is open or waits for its package. -/
theorem bare (h : s.Rests) (hl : s.rows.lines.get? i = some l)
    (hs : l.status = .creatingPackage ∨ l.isPending) :
    ∀ n k, s.rows.contracts.get? n = some k → k.line ≠ i := by
  refine (h.paired.bare i l hl fun hc => ?_).2
  rw [Line.isPending, hc] at hs
  rcases hs with hs | hs <;> cases hs

end Store.Rests

/-! ### Conditions -/

/-- Is no investor other than the owner. -/
def Actor.ActsFor (a : Actor) (owner : Int) : Prop := ∀ id, a.investorId? = some id → id = owner

/-- An actor passes the check if he may act for the owner. -/
theorem Actor.ensureScope_eq_ok {a : Actor} {owner : Int} :
    a.ensureScope owner = .ok () ↔ a.ActsFor owner := by
  unfold ensureScope ActsFor
  cases a.investorId? with
  | none => simp
  | some id => by_cases h : id = owner <;> simp [h]

/-- An offer has not expired before its time, or if it has none. -/
theorem Offer.isExpired_eq_false {o : Offer} {now : Instant} :
    o.isExpired now = false ↔ ∀ at_, o.expiredAt = some at_ → ¬at_ < now := by
  unfold isExpired
  cases o.expiredAt <;> simp

namespace Rows

/-- The line is an open line of the offer, which is online and has not expired, and the actor may act
for its investor. -/
def Acceptable (rows : Rows) (a : Actor) (now : Instant) (c : Acceptance) : Prop :=
  ∃ o r l, rows.offers.get? c.offer = some o ∧ rows.requests.get? o.request = some r ∧
    rows.lines.get? c.line = some l ∧ o.flow = .online ∧ a.ActsFor r.investor ∧
    (∀ at_, o.expiredAt = some at_ → ¬at_ < now) ∧ l.offer = c.offer ∧ l.isPending

/-- The line is an open line of the request with the loan. -/
def Confirmable (rows : Rows) (c : Confirmation) (l : Line) : Prop :=
  rows.lines.get? l.id = some l ∧ l.request = c.request ∧ l.loan = c.loan ∧ l.isPending

/-- The line waits for its package, or is open. -/
def Packageable (rows : Rows) (line : Int) : Prop :=
  ∃ l, rows.lines.get? line = some l ∧ (l.status = .creatingPackage ∨ l.isPending)

/-- The request is open, and none of its lines accepted. -/
def Deletable (rows : Rows) (id : Int) : Prop :=
  ∃ r, rows.requests.get? id = some r ∧ r.isPending ∧
    ∀ i l, rows.lines.get? i = some l → l.request = id → l.status.isAccepted = false

/-- The offer has an open line, and the actor may act for its investor. -/
def Declinable (rows : Rows) (a : Actor) (offer : Int) : Prop :=
  ∃ o r, rows.offers.get? offer = some o ∧ rows.requests.get? o.request = some r ∧
    a.ActsFor r.investor ∧ ∃ i l, rows.lines.get? i = some l ∧ l.offer = offer ∧ l.isPending

end Rows

namespace Desk

open Program
open LineStatus (canMove)

section Accept

variable {tx : TxId} {b : Book} {s : Store} {caller : Caller} {now : Instant}

/-- What is held is stored, and the line may move on while the request is open. -/
theorem answers_hold (hs : Solo tx b s) (hk : b.rows.Keyed) (offer line : Int)
    (target : LineStatus) :
    Answers (fun h t => Solo tx b t ∧ h.In b.rows ∧ h.offer.id = offer ∧ h.line.id = line ∧
      h.request.isPending ∧ canMove h.offer.flow h.line.status target)
      (hold tx offer line target) s := by
  refine answers_offerWithRequest hs fun o r t ho hr hs => ?_
  refine answers_lockRequest hs fun r' t hr' hs => ?_
  refine answers_lockLines hs fun t hs => ?_
  refine answers_findLine fun l hl hlid => ?_
  refine answers_ensure fun hmove => ?_
  refine answers_ensure fun hpend => ?_
  obtain ⟨hl, hlo⟩ := List.mem_filter.1 hl
  rw [hk.requests _ _ hr] at hr'
  have hoid : o.id = offer := hk.offers _ _ ho
  have hlo : l.offer = offer := by rw [← hoid]; simpa using hlo
  exact answers_pure ⟨hs, .of_get? hk hr' (by rw [hlo]; exact ho) (hk.lines.mem_values.1 hl),
    hoid, hlid, isPending_of_ensure hpend, canMove_of_ensure hmove⟩

/-- An acceptance fails unless its line is acceptable. -/
theorem refuses_accept {c : Acceptance} (hq : s.Rests)
    (hc : ¬s.rows.Acceptable caller.actor now c) : Refuses (accept c caller now) s := by
  refine Brings.bind (P := fun _ _ => False) (answers_bracket hq.still fun tx t ht _ => ?_)
    fun _ _ h => h.elim
  refine answers_offerWithRequest ht fun o r t ho hr ht => ?_
  refine answers_ensure fun hscope => ?_
  dsimp only
  split
  · exact fun _ _ => trivial
  split
  · exact fun _ _ => trivial
  rename_i honline hexpired
  refine Brings.bind (answers_hold ht hq.still.keyed _ _ _) fun x t ⟨_, hx, hoid, hlid, hp, hm⟩ => ?_
  have hline := isOpen_of_calm hq.tended rfl hx.offer hx.line hx.request hp hm
  have hid : o.id = c.offer := hq.still.keyed.offers _ _ ho
  have hlo : x.line.offer = c.offer := by
    rw [← hq.still.keyed.offers _ _ hx.offer, hoid, hid]
  refine (hc ⟨o, r, x.line, ho, hr, ?_, by simpa using honline, Actor.ensureScope_eq_ok.1 hscope,
    Offer.isExpired_eq_false.1 (by simpa using hexpired), hlo, hline⟩).elim
  rw [← hlid]
  exact hx.line

/-- A confirmation fails if no line can be confirmed. -/
theorem refuses_confirm {c : Confirmation} (hq : s.Rests) (hc : ∀ l, ¬s.rows.Confirmable c l) :
    Refuses (confirm c caller now) s := by
  refine Brings.bind (P := fun _ _ => False) (answers_bracket hq.still fun tx t ht _ => ?_)
    fun _ _ h => h.elim
  refine answers_ask ht rfl fun lines _ h t ht => ?_
  obtain ⟨rfl, rfl⟩ := Book.linesOfRequests_eq_ok.1 h
  split
  · exact answers_throw trivial
  rename_i target htarget
  refine Brings.bind (answers_hold ht hq.still.keyed _ _ _) fun x t ⟨_, hx, _, hlid, hp, hm⟩ => ?_
  have hline := isOpen_of_calm hq.tended rfl hx.offer hx.line hx.request hp hm
  obtain ⟨hmem, hreq, hloan⟩ := mem_candidates.1 (best?_mem htarget)
  have hget : s.rows.lines.get? x.line.id = some x.line := hx.line
  rw [hlid, hq.still.keyed.lines.mem_values.1 hmem] at hget
  obtain rfl := Option.some.inj hget
  exact (hc x.line ⟨hx.line, hreq, hloan, hline⟩).elim

/-- The creation of a package fails unless the line is ready for it. -/
theorem refuses_createPackage {line : Int} (hq : s.Rests) (hc : ¬s.rows.Packageable line) :
    Refuses (createPackage line now) s := by
  refine answers_bracket hq.still fun tx t ht _ => ?_
  refine answers_ask ht rfl fun l b' h t ht => ?_
  obtain ⟨hl, rfl⟩ := Book.getLine_eq_ok.1 h
  refine answers_offerWithRequest ht fun o r t ho hr ht => ?_
  refine answers_lockLines ht fun t ht => ?_
  refine answers_findLine fun m hm hid => ?_
  refine answers_ensure fun hmove => ?_
  have hget := hq.still.keyed.lines.mem_values.1 (List.mem_filter.1 hm).1
  rw [hid] at hget
  refine (hc ⟨m, hget, ?_⟩).elim
  rcases canMove_packageCreated (canMove_of_ensure hmove) with hs | hs
  · exact Or.inr (by rw [Line.isPending, hs]; rfl)
  · exact Or.inl hs

/-- An acceptance of an acceptable line succeeds. -/
theorem succeeds_accept {c : Acceptance} (hq : s.Rests)
    (hc : s.rows.Acceptable caller.actor now c) :
    Alone (fun _ _ => True) (accept c caller now) s := by
  obtain ⟨o, r, l, ho, hr, hl, honline, hscope, hexpired, hlo, hp⟩ := hc
  have hlid : l.id = c.line := hq.still.keyed.lines _ _ hl
  have hoid : o.id = c.offer := hq.still.keyed.offers _ _ ho
  have hx : (⟨r, o, l⟩ : Held).In s.rows := .of_get? hq.still.keyed hr (by rw [hlo]; exact ho) hl
  obtain rfl : c = ⟨o.id, l.id⟩ := by rw [hlid, hoid]
  exact alone_true (alone_accept (h := ⟨r, o, l⟩) hx hq.still (hq.isPending hx hp) hp
    (Actor.ensureScope_eq_ok.2 hscope) honline (Offer.isExpired_eq_false.2 hexpired))

/-- Of the open lines with the loan the greatest is taken. -/
theorem succeeds_confirm {c : Confirmation} (hq : s.Rests) {l : Line}
    (hc : s.rows.Confirmable c l) :
    Alone (fun a t => ∃ m, s.rows.Confirmable c m ∧ (∀ l, s.rows.Confirmable c l → l.id ≤ m.id) ∧
      a.line.id = m.id ∧ ∃ m', t.rows.lines.get? m.id = some m' ∧ m'.status = .packageCreated)
      (confirm c caller now) s := by
  have hmem : ∀ l, s.rows.Confirmable c l → l ∈ candidates c s.rows := fun l ⟨hl, hreq, hloan, _⟩ =>
    mem_candidates.2 ⟨Table.mem_values.2 ⟨_, hl⟩, hreq, hloan⟩
  obtain ⟨m, hbest, hopen⟩ := best?_of_mem (hmem l hc)
  have hp := hopen hc.2.2.2
  obtain ⟨hvalue, hreq, hloan⟩ := mem_candidates.1 (best?_mem hbest)
  have hm := hq.still.keyed.lines.mem_values.1 hvalue
  obtain ⟨x, hx, rfl, hflow, -⟩ := hq.held hm
  refine Brings.mono (fun a t h => ?_) (fun _ _ h => h)
    (alone_confirm hx hq.still (hq.isPending hx hp) hp hflow hbest (hq.bare hm (Or.inr hp)))
  obtain ⟨hline, hrows, -⟩ := h
  refine ⟨x.line, ⟨hm, hreq, hloan, hp⟩, fun l hl => best?_le hbest hp (hmem l hl) hl.2.2.2, hline, ?_⟩
  have htaken : (s.rows.take x .packageCreated caller.name now).lines.get? x.line.id =
    some (x.line.withStatus .packageCreated now) := Rows.get?_lines_take hx.line rfl _ _
  refine ⟨_, by rw [hrows]; exact Table.get?_map_eq_some.2 ⟨_, htaken, rfl⟩, ?_⟩
  split <;> rfl

/-- The creation of a package succeeds for a line that is ready for it. -/
theorem succeeds_createPackage {line : Int} (hq : s.Rests) (hc : s.rows.Packageable line) :
    Alone (fun _ _ => True) (createPackage line now) s := by
  obtain ⟨l, hl, hs⟩ := hc
  have hid := hq.still.keyed.lines _ _ hl
  obtain ⟨x, hx, rfl, hflow, -⟩ := hq.held hl
  have hbare := hq.bare hl hs
  rw [← hid] at hbare ⊢
  refine alone_true (alone_createPackage hx hq.still ?_ hbare)
  have hstatus : x.line.status = .creatingPackage ∨ x.line.status = .pending := by
    simpa [Line.isPending] using hs
  cases hf : x.offer.flow with
  | unspecified => exact absurd hf hflow
  | online | offline => rcases hstatus with h | h <;> rw [h] <;> rfl

end Accept

/-! ### Cancelling and deleting -/

section Cancel

variable {tx : TxId} {b : Book} {s : Store} {caller : Caller} {now : Instant}

/-- A deletion fails unless the request may be deleted. -/
theorem refuses_deleteRequest {id : Int} (hq : s.Rests) (hc : ¬s.rows.Deletable id) :
    Refuses (deleteRequest id) s := by
  refine answers_bracket hq.still fun tx t ht _ => ?_
  refine answers_lockRequest ht fun r t hr ht => ?_
  refine answers_ensure fun hpend => ?_
  refine answers_ask ht rfl fun ls b' h t ht => ?_
  obtain ⟨rfl, rfl⟩ := Book.linesOfRequests_eq_ok.1 h
  split
  · exact fun _ _ => trivial
  · rename_i hnone
    refine (hc ⟨r, hr, isPending_of_ensure hpend, fun i l hl hreq => ?_⟩).elim
    have hfree := List.find?_eq_none.1 hnone l
    rw [mem_newestFirst, List.mem_filter, Table.mem_values] at hfree
    simpa using hfree ⟨⟨i, hl⟩, by simp [hreq]⟩

/-- A deletion of a request that may be deleted succeeds. -/
theorem succeeds_deleteRequest {id : Int} (hq : s.Rests) (hc : s.rows.Deletable id) :
    Alone (fun _ _ => True) (deleteRequest id) s := by
  obtain ⟨r, hr, hp, hl⟩ := hc
  obtain rfl := hq.still.keyed.requests _ _ hr
  exact alone_true (alone_deleteRequest hq.still hr hp hl)

/-- Declining an offer fails unless it may be declined. -/
theorem refuses_decline {offer : Int} (hq : s.Rests)
    (hc : ¬s.rows.Declinable caller.actor offer) : Refuses (decline offer caller now) s := by
  refine answers_bracket hq.still fun tx t ht _ => ?_
  refine answers_offerWithRequest ht fun o r t ho hr ht => ?_
  refine answers_ensure fun hscope => ?_
  refine answers_lockRequest ht fun r' t _ ht => ?_
  refine answers_lockLines ht fun t ht => ?_
  split
  · rename_i l hfound
    have hp : l.isPending := by simpa using List.find?_some hfound
    obtain ⟨hvalue, hlo⟩ := List.mem_filter.1 (List.mem_of_find?_eq_some hfound)
    have hid : o.id = offer := hq.still.keyed.offers _ _ ho
    refine (hc ⟨o, r, ho, hr, Actor.ensureScope_eq_ok.1 hscope, l.id, l,
      hq.still.keyed.lines.mem_values.1 hvalue, ?_, hp⟩).elim
    rw [← hid]
    simpa using hlo
  · exact fun _ _ => trivial

/-- Declining an offer that may be declined succeeds. -/
theorem succeeds_decline {offer : Int} (hq : s.Rests)
    (hc : s.rows.Declinable caller.actor offer) :
    Alone (fun _ _ => True) (decline offer caller now) s := by
  obtain ⟨o, r, ho, hr, hscope, i, l, hl, hlo, hp⟩ := hc
  obtain rfl := hq.still.keyed.offers _ _ ho
  exact alone_true (alone_decline hq.still ho hr (Actor.ensureScope_eq_ok.2 hscope)
    (hq.linked.flow _ _ ho) hl hlo hp)

end Cancel
end Desk
end LoanDesk
