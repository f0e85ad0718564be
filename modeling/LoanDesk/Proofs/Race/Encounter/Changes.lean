/-
# What accepting and cancelling tasks change

What a task that accepts a line and a task that cancels lines do to the tables of the desk when they
commit (`Stroke`), in terms of the rows at that moment: each constructor lists what then holds of
these rows, whatever was read before and from which rows. A line that is accepted is open, and so is
its request; where lines are cancelled, which of them is said by a condition on lines, not by the
numbers that were read. The tables are kept in order all along (`Rows.Tended`).
-/

import LoanDesk.Proofs.Desk.Stamps
import LoanDesk.Proofs.Race.Meeting

namespace LoanDesk

/-! ### Tasks that accept, tasks that cancel -/

namespace Task

/-- The task accepts a line. -/
def Accepts : Task → Prop
  | .operate (.accept _) _ _ | .operate (.confirm _) _ _ => True
  | _ => False

/-- The task cancels lines, one by one or with their offer or request. -/
def Cancels : Task → Prop
  | .operate (.cancel _) _ _ | .operate (.decline _) _ _ | .operate (.deleteRequest _) _ _
  | .expire _ _ => True
  | _ => False

end Task

/-- The line belongs to an offer online whose time has passed. -/
def Rows.lapsed (rows : Rows) (now : Instant) (l : Line) : Bool :=
  (rows.offers.get? l.offer).any fun o => o.flow == .online && o.isExpired now

/-- What a task does to the tables of the desk in its commit, where the numbers up to `last` were
given out before. -/
inductive Stroke (last : Int) : Task → Rows → Rows → Prop
  | accept {rows : Rows} {h : Desk.Held} {caller : Caller} {now : Instant} (hh : h.In rows)
    (hp : h.request.isPending) (hl : h.line.isPending)
    (hs : caller.actor.ensureScope h.request.investor = .ok ()) (ho : h.offer.flow = .online)
    (hx : h.offer.isExpired now = false) :
    Stroke last (.operate (.accept ⟨h.offer.id, h.line.id⟩) caller now) rows
      (rows.take h .creatingPackage caller.name now)
  | confirm {rows : Rows} {h : Desk.Held} {c : Confirmation} {caller : Caller} {now : Instant}
    {n : Int} (hh : h.In rows) (hp : h.request.isPending) (hl : h.line.isPending)
    (hb : Desk.best? (Desk.candidates c rows) = some h.line) (hn : last < n) :
    Stroke last (.operate (.confirm c) caller now) rows
      ((rows.take h .packageCreated caller.name now).sign
        ((ContractDraft.forLine h.request h.line).toContract n now) now)
  | cancel {rows : Rows} {c : Cancellation} {caller : Caller} {now : Instant} {r : Request}
    (hr : rows.requests.get? c.request = some r) (hc : c.loans ≠ [])
    (hl : ∀ loan ∈ c.loans, ∃ i l, rows.lines.get? i = some l ∧ l.request = c.request ∧
      l.loan = loan ∧ l.isPending) :
    Stroke last (.operate (.cancel c) caller now) rows
      (rows.cancel (fun l => l.request == c.request && c.loans.contains l.loan) caller.name
        (if c.forInvestor then .investor else .admin) now)
  | decline {rows : Rows} {caller : Caller} {now : Instant} {o : Offer} {r : Request} {i : Int}
    {l : Line} (ho : rows.offers.get? o.id = some o) (hr : rows.requests.get? o.request = some r)
    (hs : caller.actor.ensureScope r.investor = .ok ()) (hl : rows.lines.get? i = some l)
    (hlo : l.offer = o.id) (hp : l.isPending) :
    Stroke last (.operate (.decline o.id) caller now) rows
      (rows.cancel (·.offer == o.id) caller.name .investor now)
  | delete {rows : Rows} {caller : Caller} {now : Instant} {r : Request}
    (hr : rows.requests.get? r.id = some r) (hp : r.isPending)
    (hl : ∀ i l, rows.lines.get? i = some l → l.request = r.id → l.status.isAccepted = false) :
    Stroke last (.operate (.deleteRequest r.id) caller now) rows (rows.removeRequest r.id)
  | expire {rows : Rows} {actor : String} {now : Instant} :
    Stroke last (.expire actor now) rows (rows.cancel (rows.lapsed now) actor .expired now)

/-- What is held among the rows is held among their tables. -/
theorem Desk.Held.In.desk {h : Held} {rows : Rows} (hh : h.In rows) : h.In rows.desk :=
  ⟨hh.request, hh.offer, hh.line⟩

/-! ### What strokes keep -/

namespace Rows

/-- What holds of the tables all along: every line belongs to an offer for its request, lines are
neat and closed with their request, and no contract is there for a line that is open. -/
structure Tended (rows : Rows) : Prop where
  keyed : rows.Keyed
  flow : ∀ i o, rows.offers.get? i = some o → o.flow ≠ .unspecified
  line : ∀ i l, rows.lines.get? i = some l →
    ∃ o, rows.offers.get? l.offer = some o ∧ o.request = l.request
  neat : rows.Neat
  closed : rows.Closed
  bare : ∀ i l, rows.lines.get? i = some l → l.isPending →
    ∀ n k, rows.contracts.get? n = some k → k.line ≠ i

namespace Tended

variable {rows : Rows}

/-- The tables of a world are tended. -/
theorem of_linked {last : Int} (h : Book.Linked ⟨rows, last⟩) (hn : rows.Neat) (hc : rows.Closed)
    (hp : rows.OneToOne) : rows.desk.Tended where
  keyed := h.keyed.desk
  flow := h.flow
  line := h.line
  neat := hn.of_eq rfl rfl
  closed := hc.of_eq rfl rfl
  bare i l hl hs n k hk := by
    refine (hp.bare i l hl fun hc => ?_).2 n k hk
    rw [Line.isPending, hc] at hs
    cases hs

/-- The request of a line that is held is that of its offer. -/
theorem request_line (h : rows.Tended) {x : Desk.Held} (hx : x.In rows) :
    x.offer.request = x.line.request := by
  obtain ⟨o, ho, hreq⟩ := h.line _ _ hx.line
  rw [hx.offer] at ho
  rw [Option.some.inj ho, hreq]

/-- Lines and requests change in place. -/
theorem update (h : rows.Tended) {f : Line → Line} {g : Request → Request}
    (hf : ∀ l, (f l).id = l.id ∧ (f l).offer = l.offer ∧ (f l).request = l.request)
    (hp : ∀ l, (f l).isPending → l.isPending) (hg : ∀ r, (g r).id = r.id)
    (hn : Neat { rows with lines := rows.lines.map f, requests := rows.requests.map g })
    (hc : Closed { rows with lines := rows.lines.map f, requests := rows.requests.map g }) :
    Tended { rows with lines := rows.lines.map f, requests := rows.requests.map g } where
  keyed := { h.keyed with
    lines := h.keyed.lines.map fun l => (hf l).1
    requests := h.keyed.requests.map hg }
  flow := h.flow
  line i l hl := by
    obtain ⟨l₀, hl₀, rfl⟩ := Table.get?_map_eq_some.1 hl
    obtain ⟨o, ho, hreq⟩ := h.line i l₀ hl₀
    obtain ⟨-, hoffer, hrequest⟩ := hf l₀
    exact ⟨o, by rw [hoffer]; exact ho, by rw [hrequest]; exact hreq⟩
  neat := hn
  closed := hc
  bare i l hl hs n k hk := by
    obtain ⟨l₀, hl₀, rfl⟩ := Table.get?_map_eq_some.1 hl
    exact h.bare i l₀ hl₀ (hp l₀ hs) n k hk

/-- Cancelling keeps what holds of the tables. -/
theorem cancel (h : rows.Tended) (p : Line → Bool) (by_ : String) {reason : CancelReason}
    (hr : reason ≠ .unknown) (now : Instant) : Tended (rows.cancel p by_ reason now) := by
  have hn := h.neat.cancel p by_ hr now
  have hc := h.closed.cancel p by_ reason now
  have hupdate := h.update (g := id) (fun l => by split <;> exact ⟨rfl, rfl, rfl⟩) (fun l hp => ?_)
    (fun _ => rfl) (hn.of_eq rfl (Table.map_id _)) (hc.of_eq rfl (Table.map_id _))
  · rw [Table.map_id] at hupdate
    exact hupdate
  · split at hp
    · cases hp
    · exact hp

/-- So does taking an open line. -/
theorem take (h : rows.Tended) {x : Desk.Held} (hx : x.In rows) (hp : x.line.isPending)
    {status : LineStatus} (hs : status.isAccepted ∧ status ≠ .signed) (by_ : String)
    (now : Instant) : Tended (rows.take x status by_ now) := by
  have hne : ∀ s, s.isAccepted = false → status ≠ s := by
    rintro s hs' rfl
    rw [hs'] at hs
    cases hs.1
  have hn := h.neat.take h.keyed.lines hx (h.request_line hx)
    (fun hc => by rw [Line.isPending, hc] at hp; cases hp) (hne _ rfl) by_ now
  have hc := h.closed.take h.keyed.requests x ⟨hne _ rfl, hs.2⟩ by_ now
  rw [take_eq] at hn hc ⊢
  refine h.update (fun l => ?_) (fun l hl => ?_) (fun r => by split <;> rfl) hn hc
  · obtain ⟨hi, ho, hr, -⟩ := x.settle_place (t := status) (b := by_) (n := now) (l := l)
    exact ⟨hi, ho, hr⟩
  · by_cases hi : l.id = x.line.id
    · rw [Desk.Held.settle_self hs.1 hi, Line.isPending] at hl
      exact absurd (by simpa [Line.withStatus] using hl) (hne .pending rfl)
    · rcases x.settle_other (t := status) (b := by_) (n := now) hi with he | ⟨hl', -⟩
      · rw [he] at hl
        exact hl
      · exact hl'

/-- So does a contract for a line that is not open. -/
theorem sign (h : rows.Tended) {k : Contract}
    (hk : ∀ l, rows.lines.get? k.line = some l → l.isPending = false) (now : Instant) :
    Tended (rows.sign k now) where
  keyed := by
    have hput := h.keyed.putContract k
    exact { hput with lines := hput.lines.map fun l => by split <;> rfl }
  flow := h.flow
  line i l hl := by
    obtain ⟨l₀, hl₀, rfl⟩ := Table.get?_map_eq_some.1 hl
    obtain ⟨o, ho, hreq⟩ := h.line i l₀ hl₀
    exact ⟨o, by split <;> exact ho, by split <;> exact hreq⟩
  neat := h.neat.sign k now
  closed := h.closed.sign k now
  bare i l hl hs n k' hk' := by
    obtain ⟨l₀, hl₀, rfl⟩ := Table.get?_map_eq_some.1 hl
    have hp : l₀.isPending := by split at hs <;> exact hs
    rcases Table.get?_insert_eq_some.1 hk' with ⟨-, rfl⟩ | ⟨-, hk'⟩
    · rintro rfl
      rw [hk l₀ hl₀] at hp
      cases hp
    · exact h.bare i l₀ hl₀ hp n k' hk'

/-- So does removing a request. -/
theorem removeRequest (h : rows.Tended) (id : Int) : Tended (rows.removeRequest id) where
  keyed := h.keyed.removeRequest id
  flow i o ho := h.flow i o (Table.get?_filter_eq_some.1 ho).1
  line i l hl := by
    obtain ⟨hl, hne⟩ := Table.get?_filter_eq_some.1 hl
    obtain ⟨o, ho, hreq⟩ := h.line i l hl
    refine ⟨o, Table.get?_filter_eq_some.2 ⟨ho, ?_⟩, hreq⟩
    rw [hreq]
    exact hne
  neat := h.neat.removeRequest id
  closed := h.closed.removeRequest id
  bare i l hl := h.bare i l (Table.get?_filter_eq_some.1 hl).1

end Tended

end Rows
end LoanDesk
