/-
# Stamps of lines

A line bears a reason, a name and a time of cancellation if it is cancelled, and none of them
otherwise. Deeds keep it that way: a line is stamped where it is cancelled and nowhere else, and a
line that is cancelled moves no more. So no line is both accepted and stamped.

The other thing that is said here of a line and its status is that none waits for its package while
its request is open: lines start to wait in the commit that closes the request.
-/

import LoanDesk.Proofs.Desk.Standings

namespace LoanDesk

namespace Line

/-- The line is stamped as cancelled if it is, and bears no stamp otherwise. -/
structure Stamped (l : Line) : Prop where
  reason : l.cancelReason ≠ .unknown ↔ l.status = .cancelled
  name : l.cancelledBy ≠ none ↔ l.status = .cancelled
  time : l.cancelledAt ≠ none ↔ l.status = .cancelled

/-- The line is accepted, and bears a stamp all the same. -/
def Contradicts (l : Line) : Prop :=
  l.status.isAccepted ∧ (l.cancelReason ≠ .unknown ∨ l.cancelledBy ≠ none ∨ l.cancelledAt ≠ none)

namespace Stamped

variable {l : Line}

/-- A new line bears no stamp. -/
theorem toLine (d : LineDraft) (id offer request : Int) (now : Instant) :
    (d.toLine id offer request now).Stamped :=
  ⟨⟨fun h => absurd rfl h, nofun⟩, ⟨fun h => absurd rfl h, nofun⟩, ⟨fun h => absurd rfl h, nofun⟩⟩

/-- A line that is cancelled for a known reason bears its stamp. -/
theorem cancelled {reason : CancelReason} (hr : reason ≠ .unknown) (l : Line) (by_ : String)
    (now : Instant) : (l.cancelled by_ reason now).Stamped :=
  ⟨⟨fun _ => rfl, fun _ => hr⟩, ⟨fun _ => rfl, nofun⟩, ⟨fun _ => rfl, nofun⟩⟩

/-- A line that is not cancelled moves on without a stamp. -/
theorem withStatus (h : l.Stamped) (hl : l.status ≠ .cancelled) {status : LineStatus}
    (hs : status ≠ .cancelled) (now : Instant) : (l.withStatus status now).Stamped :=
  ⟨⟨fun hr => absurd (h.reason.1 hr) hl, fun hs' => absurd hs' hs⟩,
    ⟨fun hn => absurd (h.name.1 hn) hl, fun hs' => absurd hs' hs⟩,
    ⟨fun ht => absurd (h.time.1 ht) hl, fun hs' => absurd hs' hs⟩⟩

/-- A line that is stamped as it should be does not contradict itself. -/
theorem not_contradicts (h : l.Stamped) : ¬l.Contradicts := by
  rintro ⟨ha, hr | hn | ht⟩
  · rw [h.reason.1 hr] at ha
    cases ha
  · rw [h.name.1 hn] at ha
    cases ha
  · rw [h.time.1 ht] at ha
    cases ha

end Stamped
end Line

namespace Rows

/-- Lines are stamped as they should be, and none waits for its package while its request is
open. -/
structure Neat (rows : Rows) : Prop where
  stamped : ∀ i l, rows.lines.get? i = some l → l.Stamped
  calm : ∀ i l r, rows.lines.get? i = some l → l.status = .creatingPackage →
    rows.requests.get? l.request = some r → r.isPending = false

namespace Neat

variable {rows : Rows}

/-- The empty rows are neat. -/
theorem empty : Neat Rows.empty where
  stamped i l h := by simp [Rows.empty] at h
  calm i l r h := by simp [Rows.empty] at h

/-- Lines and requests are the same. -/
theorem of_eq {rows' : Rows} (h : Neat rows) (hl : rows'.lines = rows.lines)
    (hr : rows'.requests = rows.requests) : Neat rows' :=
  ⟨by rw [hl]; exact h.stamped, by rw [hl, hr]; exact h.calm⟩

/-- Lines change, and start to wait only where their request is closed. -/
theorem mapLines (h : Neat rows) {f : Line → Line} (hr : ∀ l, (f l).request = l.request)
    (hs : ∀ i l, rows.lines.get? i = some l → (f l).Stamped)
    (hc : ∀ i l, rows.lines.get? i = some l → (f l).status = .creatingPackage →
      l.status = .creatingPackage ∨
        ∀ r, rows.requests.get? l.request = some r → r.isPending = false) :
    Neat { rows with lines := rows.lines.map f } where
  stamped i l hl := by
    obtain ⟨l₀, hl₀, rfl⟩ := Table.get?_map_eq_some.1 hl
    exact hs i l₀ hl₀
  calm i l r hl hst hreq := by
    obtain ⟨l₀, hl₀, rfl⟩ := Table.get?_map_eq_some.1 hl
    rw [hr] at hreq
    rcases hc i l₀ hl₀ hst with hst | hclosed
    · exact h.calm i l₀ r hl₀ hst hreq
    · exact hclosed r hreq

/-- Lines that are cancelled for a known reason are stamped. -/
theorem cancel (h : Neat rows) (p : Line → Bool) (by_ : String) {reason : CancelReason}
    (hreason : reason ≠ .unknown) (now : Instant) : Neat (rows.cancel p by_ reason now) := by
  refine h.mapLines (fun l => by split <;> rfl) (fun i l hl => ?_) fun i l hl hs => ?_
  · split
    · exact .cancelled hreason _ _ _
    · exact h.stamped i l hl
  · split at hs
    · cases hs
    · exact Or.inl hs

/-- A line that is not cancelled moves on, and starts to wait only where its request is closed. -/
theorem mark (h : Neat rows) (hk : rows.lines.Keyed Line.id) {x : Line}
    (hx : rows.lines.get? x.id = some x) (hs : x.status ≠ .cancelled) {status : LineStatus}
    (hstatus : status ≠ .cancelled) (hc : status = .creatingPackage →
      ∀ r, rows.requests.get? x.request = some r → r.isPending = false) (now : Instant) :
    Neat (rows.setLines (fun l => [x.id].contains l.id) status now) := by
  have hsame : ∀ i l, rows.lines.get? i = some l → [x.id].contains l.id → l = x := by
    intro i l hl hi
    have hi : l.id = x.id := by simpa using hi
    rw [← hi, hk i l hl, hl] at hx
    exact Option.some.inj hx
  refine h.mapLines (fun l => by split <;> rfl) (fun i l hl => ?_) fun i l hl hst => ?_
  · split
    · rename_i hi
      obtain rfl := hsame i l hl hi
      exact (h.stamped i l hl).withStatus hs hstatus now
    · exact h.stamped i l hl
  · split at hst
    · rename_i hi
      rw [hsame i l hl hi]
      exact Or.inr (hc hst)
    · exact Or.inl hst

/-- Fewer requests are open than before. -/
theorem confirmRequests (h : Neat rows) (p : Request → Bool) (now : Instant) :
    Neat (rows.setRequests p .confirmed now) where
  stamped := h.stamped
  calm i l r hl hs hr := by
    obtain ⟨r₀, hr₀, rfl⟩ := Table.get?_map_eq_some.1 hr
    have hcalm := h.calm i l r₀ hl hs hr₀
    split
    · rfl
    · exact hcalm

/-- A line of an open request is taken. -/
theorem take (h : Neat rows) (hk : rows.lines.Keyed Line.id) {x : Desk.Held} (hx : x.In rows)
    (hreq : x.offer.request = x.line.request) (hs : x.line.status ≠ .cancelled)
    {status : LineStatus} (hstatus : status ≠ .cancelled) (by_ : String) (now : Instant) :
    Neat (rows.take x status by_ now) := by
  -- Lines and requests stand in different tables, so the request may as well be confirmed first.
  have hfirst := h.confirmRequests (·.id == x.request.id) now
  refine ((hfirst.mark hk hx.line hs hstatus (fun _ r hr => ?_) now).cancel
    (·.offer == x.offer.id) by_ (by decide) now).cancel
      (fun l => [x.request.id].contains l.request) by_ (by decide) now
  obtain ⟨r₀, hr₀, rfl⟩ := Table.get?_map_eq_some.1 hr
  have hget := hx.request
  rw [hreq, hr₀] at hget
  rw [Option.some.inj hget, if_pos (beq_self_eq_true _)]
  rfl

/-- Signing stamps nothing, and leaves the status. -/
theorem sign (h : Neat rows) (k : Contract) (now : Instant) : Neat (rows.sign k now) := by
  have hput : Neat (rows.putContract k) := h.of_eq rfl rfl
  refine hput.mapLines (fun l => by split <;> rfl) (fun i l hl => ?_) fun i l hl hs => ?_
  · have hl := h.stamped i l hl
    split <;> exact ⟨hl.reason, hl.name, hl.time⟩
  · split at hs <;> exact Or.inl hs

/-- A new request has no lines that wait. -/
theorem putRequest (h : Neat rows) {last : Int} (hb : Book.Linked ⟨rows, last⟩) {r : Request}
    (hr : last < r.id) : Neat (rows.putRequest r) where
  stamped := h.stamped
  calm i l r' hl hs hr' := by
    rcases Table.get?_insert_eq_some.1 hr' with ⟨hi, -⟩ | ⟨-, hr'⟩
    · -- no line belongs to a request that is new
      obtain ⟨o, ho, hreq⟩ := hb.line i l hl
      obtain ⟨r₀, hr₀⟩ := hb.offer _ o ho
      have hle := hb.requests _ r₀ hr₀
      rw [hreq, ← hi] at hle
      exact absurd hr (Int.not_lt.2 hle)
    · exact h.calm i l r' hl hs hr'

/-- A new line does not wait. -/
theorem putLine (h : Neat rows) {l : Line} (hs : l.Stamped) (hp : l.isPending) :
    Neat (rows.putLine l) where
  stamped i m hm := by
    rcases Table.get?_insert_eq_some.1 hm with ⟨-, rfl⟩ | ⟨-, hm⟩
    · exact hs
    · exact h.stamped i m hm
  calm i m r hm hst hr := by
    rcases Table.get?_insert_eq_some.1 hm with ⟨-, rfl⟩ | ⟨-, hm⟩
    · rw [Line.isPending, hst] at hp
      cases hp
    · exact h.calm i m r hm hst hr

/-- Neither do the lines of a batch. -/
theorem putLines {offer request : Int} {now : Instant} : ∀ (ds : List LineDraft) {n : Int}
    {rows : Rows}, Neat rows →
      Neat ((LineDraft.toLines offer request now n ds).foldl Rows.putLine rows)
  | [], _, _, h => h
  | d :: ds, n, _, h => putLines ds (h.putLine (.toLine d n offer request now) rfl)

/-- A request goes with its lines. -/
theorem removeRequest (h : Neat rows) (id : Int) : Neat (rows.removeRequest id) where
  stamped i l hl := h.stamped i l (Table.get?_filter_eq_some.1 hl).1
  calm i l r hl hs hr :=
    h.calm i l r (Table.get?_filter_eq_some.1 hl).1 hs (Table.get?_filter_eq_some.1 hr).1

end Neat
end Rows

/-- **Deeds stamp the lines that they cancel, and no others**, and let lines wait for their package
only where the request is closed. -/
theorem Deed.neat {t : Task} {b b' : Book} (hd : Deed t b b') (hb : b.Linked) (h : b.rows.Neat) :
    b'.rows.Neat := by
  have hmoved : ∀ {flow : Flow} {s target : LineStatus}, LineStatus.canMove flow s target →
      s ≠ .cancelled := by
    rintro flow s target hm rfl
    cases hm
  cases hd with
  | openRequest hs hn hlast => exact h.putRequest hb hn
  | deleteRequest hr hp hl hlast => exact h.removeRequest _
  | propose hc hr hp hs ho hl hlast => exact .putLines _ (h.of_eq rfl rfl)
  | confirm hh hc hp hm hk hn hlast =>
    exact (h.take hb.keyed.lines hh (hb.request_line hh) (hmoved hm) (by decide) _ _).sign _ _
  | accept hh hs ho hx hp hm hlast =>
    exact h.take hb.keyed.lines hh (hb.request_line hh) (hmoved hm) (by decide) _ _
  | createPackage hh hm hk hn hlast =>
    exact (h.mark hb.keyed.lines hh.line (hmoved hm) (by decide) (fun hs => by cases hs) _).sign _ _
  | setGuaranteeEnd hk hat hlast => exact h.of_eq rfl rfl
  | cancel hr hids hlast => exact h.cancel _ _ (by split <;> decide) _
  | decline ho hr hs hlast => exact h.cancel _ _ (by decide) _
  | withdraw hrs hlast => exact (h.cancel _ _ (by decide) _).confirmRequests _ _
  | addCeiling hn hlast => exact h.of_eq rfl rfl
  | expire hlast => exact h.cancel _ _ (by decide) _
  | declineBatch hrs hlast => exact (h.cancel _ _ (by decide) _).confirmRequests _ _
  | record ht hn hlast => exact h.of_eq rfl rfl

/-- Lines are neat in every world. -/
theorem History.neat {w : World} {ws : List World} (h : History (w :: ws)) : w.store.rows.Neat :=
  h.invariant .empty Deed.neat

end LoanDesk
