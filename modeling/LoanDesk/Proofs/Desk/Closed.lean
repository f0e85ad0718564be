/-
# Requests that are closed have no open lines

Lines and requests change together: a request is confirmed in the same commit that cancels its open
lines, and lines are only added while it is open (`Rows.Closed`). No line is ever signed, since no
deed signs one. Every deed keeps this (`Deed.closed`), so it holds in every world of a history
(`History.closed`).
-/

import LoanDesk.Proofs.Desk.Evolution

namespace LoanDesk

namespace Rows

/-- The lines of a request. -/
def linesOf (rows : Rows) (request : Int) : List Line :=
  rows.lines.values.filter (·.request == request)

/-- The lines of a request are the stored lines that name it. -/
theorem mem_linesOf {rows : Rows} {request : Int} {l : Line} :
    l ∈ rows.linesOf request ↔ (∃ i, rows.lines.get? i = some l) ∧ l.request = request := by
  rw [linesOf, List.mem_filter, Table.mem_values]
  simp

/-- Picking the lines of the one request is listing its lines. -/
theorem filter_request (rows : Rows) (request : Int) :
    (rows.lines.values.filter fun l => [request].contains l.request) = rows.linesOf request :=
  List.filter_congr fun l _ => by rw [List.contains_cons, List.contains_nil, Bool.or_false]

/-- No line is signed, and no line of a confirmed request is open. -/
structure Closed (rows : Rows) : Prop where
  unsigned : ∀ i l, rows.lines.get? i = some l → l.status ≠ .signed
  confirmed : ∀ i r, rows.requests.get? i = some r → r.status = .confirmed →
    ∀ j l, rows.lines.get? j = some l → l.request = i → l.isPending = false

namespace Closed

variable {rows : Rows}

/-- The empty rows are closed. -/
theorem empty : Closed Rows.empty where
  unsigned i l h := by simp [Rows.empty] at h
  confirmed i r h := by simp [Rows.empty] at h

/-- Lines and requests are the same. -/
theorem of_eq {rows' : Rows} (h : Closed rows) (hl : rows'.lines = rows.lines)
    (hr : rows'.requests = rows.requests) : Closed rows' :=
  ⟨by rw [hl]; exact h.unsigned, by rw [hl, hr]; exact h.confirmed⟩

/-- Lines may change as long as none is signed or opened. -/
theorem mapLines (h : Closed rows) {f : Line → Line}
    (hf : ∀ l, (f l).request = l.request ∧ (l.status ≠ .signed → (f l).status ≠ .signed) ∧
      ((f l).isPending → l.isPending)) : Closed { rows with lines := rows.lines.map f } where
  unsigned i l hl := by
    obtain ⟨l₀, hl₀, rfl⟩ := Table.get?_map_eq_some.1 hl
    exact (hf l₀).2.1 (h.unsigned i l₀ hl₀)
  confirmed i r hr hc j l hl hreq := by
    obtain ⟨l₀, hl₀, rfl⟩ := Table.get?_map_eq_some.1 hl
    obtain ⟨hsame, -, hpend⟩ := hf l₀
    rw [hsame] at hreq
    have hclosed := h.confirmed i r hr hc j l₀ hl₀ hreq
    cases hp : (f l₀).isPending with
    | false => rfl
    | true =>
      rw [hpend hp] at hclosed
      cases hclosed

/-- Cancelling opens no line. -/
theorem cancel (h : Closed rows) (p : Line → Bool) (by_ : String) (reason : CancelReason)
    (now : Instant) : Closed (rows.cancel p by_ reason now) :=
  h.mapLines fun l => by
    split
    · exact ⟨rfl, fun _ => nofun, nofun⟩
    · exact ⟨rfl, fun hs => hs, fun hp => hp⟩

/-- Lines may move to a status that is neither open nor signed. -/
theorem setLines (h : Closed rows) (p : Line → Bool) {status : LineStatus}
    (hs : status ≠ .pending ∧ status ≠ .signed) (now : Instant) :
    Closed (rows.setLines p status now) :=
  h.mapLines fun l => by
    split
    · refine ⟨rfl, fun _ => hs.2, fun hp => ?_⟩
      exact absurd (by simpa [Line.isPending, Line.withStatus] using hp) hs.1
    · exact ⟨rfl, fun hs => hs, fun hp => hp⟩

/-- Signing leaves every line where it stands. -/
theorem sign (h : Closed rows) (k : Contract) (now : Instant) : Closed (rows.sign k now) := by
  have hput : Closed (rows.putContract k) := h.of_eq rfl rfl
  refine hput.mapLines fun l => ?_
  split <;> exact ⟨rfl, fun hs => hs, fun hp => hp⟩

/-- Requests may be confirmed as long as no line of theirs is open. -/
theorem confirmRequests (h : Closed rows) (hk : rows.requests.Keyed Request.id)
    {p : Request → Bool} (hp : ∀ r, p r → ∀ j l, rows.lines.get? j = some l → l.request = r.id →
      l.isPending = false) (now : Instant) : Closed (rows.setRequests p .confirmed now) where
  unsigned := h.unsigned
  confirmed i r hr hc j l hl hreq := by
    obtain ⟨r₀, hr₀, rfl⟩ := Table.get?_map_eq_some.1 hr
    by_cases hsel : p r₀
    · exact hp r₀ hsel j l hl (hreq.trans (hk i r₀ hr₀).symm)
    · rw [if_neg hsel] at hc
      exact h.confirmed i r₀ hr₀ hc j l hl hreq

/-- Requests are confirmed once their open lines are cancelled. -/
theorem shut (h : Closed rows) (hk : rows.requests.Keyed Request.id) (ids : List Int)
    {p : Request → Bool} (hp : ∀ r, p r → r.id ∈ ids) (by_ : String) (reason : CancelReason)
    (now : Instant) :
    Closed ((rows.cancel (fun l => ids.contains l.request) by_ reason now).setRequests p
      .confirmed now) := by
  refine (h.cancel _ by_ reason now).confirmRequests hk (fun r hsel j l hl hreq => ?_) now
  obtain ⟨l₀, hl₀, rfl⟩ := Table.get?_map_eq_some.1 hl
  have hsame : l₀.request = r.id := by
    rw [← hreq]
    split <;> rfl
  have hid : ids.contains l₀.request := by
    rw [hsame]
    simpa using hp r hsel
  simp only [hid, Bool.and_true]
  split
  · rfl
  · rename_i hkeep
    simpa using hkeep

/-- Accepting a line closes its request and all the others of that request. -/
theorem take (h : Closed rows) (hk : rows.requests.Keyed Request.id) (x : Desk.Held)
    {status : LineStatus} (hs : status ≠ .pending ∧ status ≠ .signed) (by_ : String)
    (now : Instant) : Closed (rows.take x status by_ now) := by
  have hmarked := (h.setLines (fun l => [x.line.id].contains l.id) hs now).cancel
    (·.offer == x.offer.id) by_ .alternativeOption now
  refine hmarked.shut hk [x.request.id] (fun r hr => ?_) by_ .alternativeOption now
  simpa using hr

/-- A new open request adds no line. -/
theorem putRequest (h : Closed rows) {r : Request} (hr : r.isPending) :
    Closed (rows.putRequest r) where
  unsigned := h.unsigned
  confirmed i r' hr' hc := by
    rcases Table.get?_insert_eq_some.1 hr' with ⟨-, rfl⟩ | ⟨-, hr'⟩
    · rw [Request.isPending, hc] at hr
      cases hr
    · exact h.confirmed i r' hr' hc

/-- An open line may be added under an open request. -/
theorem putLine (h : Closed rows) {l : Line} (hs : l.isPending) {r : Request}
    (hr : rows.requests.get? l.request = some r) (hp : r.isPending) :
    Closed (rows.putLine l) where
  unsigned i m hm := by
    rcases Table.get?_insert_eq_some.1 hm with ⟨-, rfl⟩ | ⟨-, hm⟩
    · intro he
      rw [Line.isPending, he] at hs
      cases hs
    · exact h.unsigned i m hm
  confirmed i r' hr' hc j m hm hreq := by
    rcases Table.get?_insert_eq_some.1 hm with ⟨-, rfl⟩ | ⟨-, hm⟩
    · have hget : rows.requests.get? i = some r' := hr'
      rw [hreq, hget] at hr
      obtain rfl := Option.some.inj hr
      rw [Request.isPending, hc] at hp
      cases hp
    · exact h.confirmed i r' hr' hc j m hm hreq

/-- So may a whole batch of lines. -/
theorem putLines {offer : Int} {r : Request} {now : Instant} (hp : r.isPending) :
    ∀ (ds : List LineDraft) {n : Int} {rows : Rows}, Closed rows →
      rows.requests.get? r.id = some r →
        Closed ((LineDraft.toLines offer r.id now n ds).foldl Rows.putLine rows)
  | [], _, _, h, _ => h
  | d :: ds, n, _, h, hr =>
    putLines hp ds (h.putLine (l := d.toLine n offer r.id now) rfl hr hp) hr

/-- Removing a request takes its lines along. -/
theorem removeRequest (h : Closed rows) (id : Int) : Closed (rows.removeRequest id) where
  unsigned i l hl := h.unsigned i l (Table.get?_filter_eq_some.1 hl).1
  confirmed i r hr hc j l hl := h.confirmed i r (Table.get?_filter_eq_some.1 hr).1 hc j l
    (Table.get?_filter_eq_some.1 hl).1

end Closed
end Rows

/-- **Deeds open no line of a confirmed request, and sign none.** -/
theorem Deed.closed {t : Task} {b b' : Book} (hd : Deed t b b') (hb : b.Linked)
    (h : b.rows.Closed) : b'.rows.Closed := by
  have hk := hb.keyed.requests
  cases hd with
  | openRequest hs hn hlast => exact h.putRequest rfl
  | deleteRequest hr hp hl hlast => exact h.removeRequest _
  | propose hc hr hp hs ho hl hlast =>
    have hid := hk _ _ hr
    rw [← hid] at hr
    exact .putLines hp _ (h.of_eq rfl rfl) hr
  | confirm hh hc hp hm hkl hn hlast => exact (h.take hk _ (by decide) _ _).sign _ _
  | accept hh hs ho hx hp hm hlast => exact h.take hk _ (by decide) _ _
  | createPackage hh hm hkl hn hlast => exact (h.setLines _ (by decide) _).sign _ _
  | setGuaranteeEnd hkg hat hlast => exact h.of_eq rfl rfl
  | cancel hr hids hlast => exact h.cancel _ _ _ _
  | decline ho hr hs hlast => exact h.cancel _ _ _ _
  | withdraw hrs hlast => exact h.shut hk _ (fun r hr => by simpa using hr) _ _ _
  | addCeiling hn hlast => exact h.of_eq rfl rfl
  | expire hlast => exact h.cancel _ _ _ _
  | declineBatch hrs hlast => exact h.shut hk _ (fun r hr => by simpa using hr) _ _ _
  | record ht hn hlast => exact h.of_eq rfl rfl

namespace History

/-- Every history starts in the empty world. -/
theorem empty_mem {ws : List World} (h : History ws) : World.empty ∈ ws := by
  induction h with
  | empty => exact List.mem_singleton_self _
  | step _ _ ih => exact List.mem_cons_of_mem _ ih

/-- What deeds keep holds in every world, if it holds of no rows. -/
theorem invariant {P : Rows → Prop} (hempty : P Rows.empty)
    (hdeed : ∀ {t b b'}, Deed t b b' → b.Linked → P b.rows → P b'.rows) {w : World}
    {ws : List World} (h : History (w :: ws)) : P w.store.rows :=
  h.lasts hdeed h.empty_mem hempty

/-- The rows of every world are closed. -/
theorem closed {w : World} {ws : List World} (h : History (w :: ws)) : w.store.rows.Closed :=
  h.invariant .empty Deed.closed

end History

end LoanDesk
