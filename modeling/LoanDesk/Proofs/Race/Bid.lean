/-
# Bids for a request beside others

Beside other bids a bid leaves just what it leaves by itself, or it is told that it came too late
(`Bid.Leaves.settles`). Once it holds its line (`Race.Bid.Holding`) nobody else can take one of the
request, and so the rest of the bid goes through.
-/

import LoanDesk.Proofs.Race.Bid.Holding

namespace LoanDesk

open LineStatus (canMove)

namespace Desk

open Program

variable {ι : Type} {C : Course ι} {i : ι} {ℓ : Lane ι} {tx : TxId}

/-- The other open lines are cancelled, those of the offer before the rest. -/
theorem contest_cancelAlternatives {w : Option ι} {b : Book} {h : Held} {by_ : String}
    {now : Instant} {E : Failure → Lane ι → Prop} (hℓ : C.Holds i tx w b ℓ) :
    Brings (C.contest i) (fun _ m => C.Holds i tx w
        ⟨(b.rows.cancel (·.offer == h.offer.id) by_ .alternativeOption now).cancel
          (fun l => [h.request.id].contains l.request) by_ .alternativeOption now, b.last⟩ m) E
      (cancelAlternatives tx h by_ now) ℓ := by
  refine Brings.holds hℓ (Book.cancelWhere_eq_ok.2 ⟨rfl, fun _ _ _ _ => rfl, rfl⟩) fun m hm => ?_
  refine Brings.holds hm (Book.cancelWhere_eq_ok.2 ⟨rfl, fun _ _ _ _ => rfl, rfl⟩) fun m hm => ?_
  exact Brings.pure fun t ht => hm.others ht

/-- A line that is held is taken. -/
theorem contest_take {β : Type} {w : Option ι} {b : Book} {h : Held}
    (hr : b.rows.requests.get? h.request.id = some h.request) {status : LineStatus} {by_ : String}
    {now : Instant} {f : Nat × Nat → Action β} {Q : β → Lane ι → Prop} {E : Failure → Lane ι → Prop}
    (hℓ : C.Holds i tx w b ℓ)
    (hf : ∀ n m, C.Holds i tx w ⟨b.rows.take h status by_ now, b.last⟩ m →
      Brings (C.contest i) Q E (f n) m) :
    Brings (C.contest i) Q E
      (do
        let _ ← ask tx (.setLineStatuses [h.line.id] status now)
        let n ← cancelAlternatives tx h by_ now
        ask tx (.setRequestStatus h.request.id .confirmed now)
        f n) ℓ := by
  refine Brings.holds hℓ (Book.setLineStatuses_eq_ok.2 ⟨rfl, fun _ _ _ _ => rfl, rfl⟩) fun m hm => ?_
  refine Brings.bind (contest_cancelAlternatives hm) fun n m hm => ?_
  exact Brings.holds hm ((Book.setRequestStatus_eq_ok (u := ())).2 ⟨⟨h.request, hr⟩, rfl, rfl⟩)
    fun m hm => hf n m hm

/-- After the commit the investor is told, whatever comes of it. -/
theorem contest_tell {β : Type} {E : Failure → Lane ι → Prop} (e : Event) (f : Option String → β)
    (hmine : ℓ.mine = []) (hw : ℓ.winner = some i) :
    Brings (C.contest i) (fun _ m => m.mine = [] ∧ m.winner = some i) E
      (do return f (← deliver e) : Action β) ℓ := by
  refine ensures_step fun m ho hfit x t hd => ?_
  obtain rfl : t = m.store := hd
  have hmw : m.winner = some i := (ho.winner (by rw [hw]; exact Option.some_ne_none i)).trans hw
  refine ⟨.still hfit trivial, ?_⟩
  cases x <;> exact fun v hv => ⟨hv.mine.trans (ho.mine.trans hmine),
    (hv.winner (by rw [hmw]; exact Option.some_ne_none i)).trans hmw⟩

/-- What comes of a bid: it has won, or somebody else has or will. -/
def Settles (C : Course ι) (i : ι) : Except Failure AcceptOutcome → Lane ι → Prop :=
  outcome (fun _ m => m.mine = [] ∧ m.winner = some i)
    fun e m => e.IsTooLate ∧ m.mine = [] ∧ m.winner ≠ some i ∧ C.Decided m

namespace Settles

variable {r : Except Failure AcceptOutcome}

/-- A program that is settled has ended its transactions. -/
theorem mine_eq (h : Settles C i r ℓ) : ℓ.mine = [] := by
  cases r with
  | ok a => exact h.1
  | error e => exact h.2.1

/-- Where a program is settled, somebody has won or will. -/
theorem decided (h : Settles C i r ℓ) : C.Decided ℓ := by
  cases r with
  | ok a => exact Or.inl (by rw [h.2]; exact Option.some_ne_none i)
  | error e => exact h.2.2.2

/-- The winner gets an answer. -/
theorem ok_of_winner (h : Settles C i r ℓ) (hw : ℓ.winner = some i) : ∃ a, r = .ok a := by
  cases r with
  | ok a => exact ⟨a, rfl⟩
  | error e => exact absurd hw h.2.2.1

/-- Everybody else is too late. -/
theorem error_of_winner (h : Settles C i r ℓ) (hw : ℓ.winner ≠ some i) :
    ∃ e, r = .error e ∧ e.IsTooLate := by
  cases r with
  | ok a => exact absurd h.2 hw
  | error e => exact ⟨e, rfl, h.1⟩

end Settles

/-- An acceptance that bids for the request wins or is too late. -/
theorem contest_accept (hC : C.Sound) {h : Held} {caller : Caller} {now : Instant}
    (hh : h.In C.start.rows) (hr : h.offer.request = C.request) (hl : h.line.isPending)
    (hs : caller.actor.ensureScope h.request.investor = .ok ()) (ho : h.offer.flow = .online)
    (hx : h.offer.isExpired now = false)
    (hfinish : C.finish i = C.start.rows.take h .creatingPackage caller.name now)
    (hmine : ℓ.mine = []) (hloses : ℓ.winner ≠ some i) :
    Ensures (C.contest i) (Settles C i) (accept ⟨h.offer.id, h.line.id⟩ caller now).run ℓ := by
  refine Brings.bind (ensures_bracket (P := Failure.IsTooLate) (fun tx m hm => ?_) hmine hloses)
    fun ⟨h', siblings, others⟩ t ht => contest_tell _ _ ht.1 ht.2
  refine Brings.looks (Store.perform_offerWithRequest · tx h.offer.id) hm fun m hm _ => ?_
  obtain ⟨r, hread, -, hinvestor⟩ := offerIn_eq hC hh hr m.winner
  refine ⟨(h.offer, r), hread, brings_ensure_ok (by rw [hinvestor]; exact hs) ?_⟩
  rw [if_neg (by simp [ho]), if_neg (by simp [hx])]
  refine Brings.bind (contest_hold hC hh hr (fun flow hf => ?_) hm fun _ => hl)
    fun h' m ⟨hh', _, hm⟩ => ?_
  · simp [canMove, LineStatus.next, hf]
  subst hh'
  dsimp only
  refine contest_take (hC.request_of_in hh) hm fun n m hm => Brings.pure fun t ht =>
    ⟨C.start.last, ?_⟩
  rw [hfinish]
  exact hm.others ht

/-- Whoever may have won, there are lines with the loan to choose from; the choice is a line of an
offer for the request, and as long as nobody has won it is the line that was best at the start. -/
theorem best?_candidates (hC : C.Sound) {h : Held} {c : Confirmation} (hh : h.In C.start.rows)
    (hr : h.offer.request = C.request) (hb : best? (candidates c C.start.rows) = some h.line)
    (w : Option ι) : ∃ x : Held, x.In C.start.rows ∧ x.offer.request = C.request ∧
      (w = none → x = h) ∧ ∃ l, best? (candidates c (C.rows w)) = some l ∧
        l.offer = x.offer.id ∧ l.id = x.line.id := by
  have hkeyed := hC.linked.keyed
  cases w with
  | none => exact ⟨h, hh, hr, fun _ => rfl, h.line, hb, (hkeyed.offers _ _ hh.offer).symm, rfl⟩
  | some k =>
    obtain ⟨-, hreq, hloan⟩ := mem_candidates.1 (best?_mem hb)
    obtain ⟨l, hl, -, -, hlr, hll⟩ := (hC.later (some k)).line hh.line
    obtain ⟨y, hy, -⟩ := best?_of_mem (mem_candidates.2
      ⟨Table.mem_values.2 ⟨_, hl⟩, hlr.trans hreq, hll.trans hloan⟩)
    obtain ⟨hymem, hyr, -⟩ := mem_candidates.1 (best?_mem hy)
    obtain ⟨n, hn⟩ := Table.mem_values.1 hymem
    obtain ⟨z, hz, hid, hoffer, hrequest, -⟩ := (hC.later (some k)).line_before hn
    obtain ⟨o, ho, hor⟩ := hC.linked.line _ _ hz
    have hor : o.request = h.offer.request := by
      rw [hor, ← hrequest, hyr, ← hreq, hC.linked.request_line hh]
    refine ⟨⟨h.request, o, z⟩, .of_get? hkeyed ?_ ho hz, hor.trans hr, nofun, y, hy, ?_, hid⟩
    · rw [hor]
      exact hh.request
    · rw [hoffer]
      exact (hkeyed.offers _ _ ho).symm

/-- A confirmation that bids for the request wins or is too late. -/
theorem contest_confirm (hC : C.Sound) {h : Held} {c : Confirmation} {caller : Caller}
    {now : Instant} (hh : h.In C.start.rows) (hr : h.offer.request = C.request)
    (hl : h.line.isPending) (hb : best? (candidates c C.start.rows) = some h.line)
    (hfinish : C.finish i = (C.start.rows.take h .packageCreated caller.name now).sign
      ((ContractDraft.forLine h.request h.line).toContract (C.start.last + 1) now) now)
    (hmine : ℓ.mine = []) (hloses : ℓ.winner ≠ some i) :
    Ensures (C.contest i) (Settles C i) (confirm c caller now).run ℓ := by
  refine Brings.bind (ensures_bracket (P := Failure.IsTooLate) (fun tx m hm => ?_) hmine hloses)
    fun ⟨h', siblings, others, k⟩ t ht => contest_tell _ _ ht.1 ht.2
  refine Brings.looks (g := fun rows => .ok (newestFirst (fun l => (l.createdAt, l.id))
    (rows.lines.values.filter fun l => [c.request].contains l.request))) (fun _ => rfl) hm
    fun m hm _ => ⟨_, rfl, ?_⟩
  obtain ⟨x, hx, hxr, hxh, target, htarget, hoffer, hline⟩ := best?_candidates hC hh hr hb m.winner
  unfold candidates at htarget
  rw [htarget]
  dsimp only
  rw [hoffer, hline]
  refine Brings.bind (contest_hold hC hx hxr (fun flow hf => ?_) hm fun hw => ?_)
    fun h' m' ⟨hh', hw, hm⟩ => ?_
  · simp [canMove, LineStatus.next, hf]
  · rw [hxh hw]
    exact hl
  obtain rfl : h' = h := hh'.trans (hxh hw)
  refine contest_take (hC.request_of_in hh) hm fun n m hm => ?_
  refine Brings.holds hm (Book.createContract_eq_ok.2 ⟨fun k hk hkl => ?_, rfl, rfl⟩) fun m hm => ?_
  · have hs : h'.line.status = .pending := by simpa [Line.isPending] using hl
    obtain ⟨n, hn⟩ := Table.mem_values.1 hk
    exact (hC.paired.oneToOne.bare _ _ hh.line (by rw [hs]; decide)).2 n k hn hkl
  refine Brings.holds hm ((Book.attachContract_eq_ok (u := ())).2
    ⟨⟨_, Rows.get?_lines_take hh.line rfl caller.name now⟩, rfl, rfl⟩)
    fun m hm => Brings.pure fun t ht => ⟨C.start.last + 1, ?_⟩
  rw [hfinish]
  exact hm.others ht

end Desk

/-- **A bid leaves what it leaves by itself, or is told that it is too late.** -/
theorem Bid.Leaves.settles {ι : Type} {C : Course ι} {i : ι} {ℓ : Lane ι} {bid : Bid} (hC : C.Sound)
    (h : bid.Leaves C.request C.start (C.finish i)) (hmine : ℓ.mine = [])
    (hloses : ℓ.winner ≠ some i) :
    Program.Ensures (C.contest i) (Desk.Settles C i) bid.program ℓ := by
  generalize hf : C.finish i = rows at h
  cases h with
  | accept hh hr hl hs ho hx => exact Desk.contest_accept hC hh hr hl hs ho hx hf hmine hloses
  | confirm hh hr hl hb => exact Desk.contest_confirm hC hh hr hl hb hf hmine hloses

end LoanDesk
