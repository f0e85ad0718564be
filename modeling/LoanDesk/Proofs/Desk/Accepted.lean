/-
# Accepted lines

Which lines may be accepted side by side (`Rows.Settled`). A line is accepted by an investor or an
administrator while its request is open, and the request is confirmed with it; so no second one
follows. The one way around is a package that is created for a line still open, since that looks
neither at the request nor at the other lines. Lines taken that way are called hasty, and the
statements here are relative to a set of hasty lines.
-/

import LoanDesk.Proofs.Desk.Accepted.Kept

namespace LoanDesk

namespace Rows

/-- An accepted line that is not hasty belongs to a confirmed request, and no other line of the
request is accepted but hasty ones. -/
structure Settled (hasty : Int → Prop) (rows : Rows) : Prop where
  confirmed : ∀ i l, rows.lines.get? i = some l → l.status.isAccepted →
    hasty i ∨ ∃ r, rows.requests.get? l.request = some r ∧ r.status = .confirmed
  single : ∀ i j l m, rows.lines.get? i = some l → rows.lines.get? j = some m →
    l.status.isAccepted → m.status.isAccepted → l.request = m.request → i = j ∨ hasty i ∨ hasty j

namespace Settled

variable {hasty : Int → Prop} {rows : Rows}

/-- Nothing is accepted in the empty rows. -/
theorem empty (hasty : Int → Prop) : Settled hasty Rows.empty where
  confirmed i l h := by simp [Rows.empty] at h
  single i j l m h := by simp [Rows.empty] at h

/-- What is settled but for some lines is settled but for more of them. -/
theorem mono {hasty' : Int → Prop} (h : Settled hasty rows) (hh : ∀ i, hasty i → hasty' i) :
    Settled hasty' rows where
  confirmed i l hl ha := (h.confirmed i l hl ha).imp_left (hh i)
  single i j l m hl hm ha hb hr := (h.single i j l m hl hm ha hb hr).imp_right (Or.imp (hh i) (hh j))

/-- Lines and requests are the same. -/
theorem of_eq {rows' : Rows} (h : Settled hasty rows) (hl : rows'.lines = rows.lines)
    (hr : rows'.requests = rows.requests) : Settled hasty rows' :=
  ⟨by rw [hl, hr]; exact h.confirmed, by rw [hl]; exact h.single⟩

/-- Confirming requests takes nothing back. -/
theorem confirmRequests (h : Settled hasty rows) (p : Request → Bool) (now : Instant) :
    Settled hasty (rows.setRequests p .confirmed now) where
  confirmed i l hl ha := by
    refine (h.confirmed i l hl ha).imp_right fun ⟨r, hr, hc⟩ => ?_
    refine ⟨_, Table.get?_map_eq_some.2 ⟨r, hr, rfl⟩, ?_⟩
    split
    · rfl
    · exact hc
  single := h.single

/-- Lines may change as long as none is accepted thereby. -/
theorem mapLines (h : Settled hasty rows) {f : Line → Line}
    (hf : ∀ l, (f l).status.isAccepted → l.status.isAccepted)
    (hr : ∀ l, (f l).request = l.request) :
    Settled hasty { rows with lines := rows.lines.map f } where
  confirmed i l hl ha := by
    obtain ⟨l₀, hl₀, rfl⟩ := Table.get?_map_eq_some.1 hl
    rw [hr]
    exact h.confirmed i l₀ hl₀ (hf l₀ ha)
  single i j l m hl hm ha hb he := by
    obtain ⟨l₀, hl₀, rfl⟩ := Table.get?_map_eq_some.1 hl
    obtain ⟨m₀, hm₀, rfl⟩ := Table.get?_map_eq_some.1 hm
    rw [hr, hr] at he
    exact h.single i j l₀ m₀ hl₀ hm₀ (hf l₀ ha) (hf m₀ hb) he

/-- Cancelling lines accepts none. -/
theorem cancel (h : Settled hasty rows) (p : Line → Bool) (by_ : String) (reason : CancelReason)
    (now : Instant) : Settled hasty (rows.cancel p by_ reason now) := by
  refine h.mapLines (fun l ha => ?_) fun l => by split <;> rfl
  split at ha
  · cases ha
  · exact ha

/-- A contract is written for a line and accepts none. -/
theorem sign (h : Settled hasty rows) (k : Contract) (now : Instant) :
    Settled hasty (rows.sign k now) := by
  have hput : Settled hasty (rows.putContract k) := h.of_eq rfl rfl
  refine hput.mapLines (fun l ha => ?_) fun l => by split <;> rfl
  split at ha <;> exact ha

/-- A line may be accepted if it was so before, or is hasty, or its request is confirmed and all
other accepted lines of it are hasty. -/
theorem mark (h : Settled hasty rows) (hk : rows.lines.Keyed Line.id) {l : Line}
    (hl : rows.lines.get? l.id = some l) (status : LineStatus) (now : Instant)
    (hx : l.status.isAccepted ∨ hasty l.id ∨
      (∃ r, rows.requests.get? l.request = some r ∧ r.status = .confirmed) ∧
        ∀ j m, rows.lines.get? j = some m → m.status.isAccepted → m.request = l.request → hasty j) :
    Settled hasty (rows.setLines (fun l' => [l.id].contains l'.id) status now) := by
  have hcases : ∀ i m', (rows.setLines (fun l' => [l.id].contains l'.id) status now).lines.get? i =
      some m' → i = l.id ∧ m'.request = l.request ∨ rows.lines.get? i = some m' := by
    intro i m' hm'
    rcases (Rows.get?_setLines_one hk hl).1 hm' with ⟨hi, rfl⟩ | ⟨-, hm⟩
    · exact Or.inl ⟨hi, rfl⟩
    · exact Or.inr hm
  have hside : ∀ j m, rows.lines.get? j = some m → m.status.isAccepted → m.request = l.request →
      l.id = j ∨ hasty l.id ∨ hasty j := by
    intro j m hm hb he
    rcases hx with hx | hx | ⟨-, hx⟩
    · exact h.single _ j l m hl hm hx hb he.symm
    · exact Or.inr (Or.inl hx)
    · exact Or.inr (Or.inr (hx j m hm hb he))
  constructor
  · intro i m' hm' ha
    rcases hcases i m' hm' with ⟨rfl, hreq⟩ | hm
    · rw [hreq]
      rcases hx with hx | hx | ⟨hx, -⟩
      · exact h.confirmed _ l hl hx
      · exact Or.inl hx
      · exact Or.inr hx
    · exact h.confirmed i m' hm ha
  · intro i j l' m' hl' hm' ha hb he
    rcases hcases i l' hl' with ⟨rfl, hreq⟩ | hl₁
    · rcases hcases j m' hm' with ⟨rfl, -⟩ | hm₁
      · exact Or.inl rfl
      · exact hside j m' hm₁ hb (by rw [← he, hreq])
    · rcases hcases j m' hm' with ⟨rfl, hreq⟩ | hm₁
      · rcases hside i l' hl₁ ha (by rw [he, hreq]) with hs | hs | hs
        · exact Or.inl hs.symm
        · exact Or.inr (Or.inr hs)
        · exact Or.inr (Or.inl hs)
      · exact h.single i j l' m' hl₁ hm₁ ha hb he

/-- A new request has no line yet. -/
theorem putRequest (h : Settled hasty rows) {last : Int} (hu : rows.requests.Upto last)
    {r : Request} (hr : last < r.id) : Settled hasty (rows.putRequest r) where
  confirmed i l hl ha :=
    (h.confirmed i l hl ha).imp_right fun ⟨r', hr', hc⟩ => ⟨r', hu.get?_insert hr hr', hc⟩
  single := h.single

/-- A new open line is not accepted. -/
theorem putLine (h : Settled hasty rows) {l : Line} (hl : l.isPending) :
    Settled hasty (rows.putLine l) := by
  have hold : ∀ i m, (rows.putLine l).lines.get? i = some m → m.status.isAccepted →
      rows.lines.get? i = some m := by
    intro i m hm ha
    rcases Table.get?_insert_eq_some.1 hm with ⟨-, rfl⟩ | ⟨-, hm⟩
    · rw [Line.not_accepted_of_isPending hl] at ha
      cases ha
    · exact hm
  exact ⟨fun i m hm ha => h.confirmed i m (hold i m hm ha) ha,
    fun i j m m' hm hm' ha hb => h.single i j m m' (hold i m hm ha) (hold j m' hm' hb) ha hb⟩

/-- The lines of a batch start open. -/
theorem putLines {offer request : Int} {now : Instant} : ∀ (ds : List LineDraft) {n : Int}
    {rows : Rows}, Settled hasty rows →
      Settled hasty ((LineDraft.toLines offer request now n ds).foldl Rows.putLine rows)
  | [], _, _, h => h
  | d :: ds, n, _, h => putLines ds (h.putLine (l := d.toLine n offer request now) rfl)

/-- Removing a request takes its lines along. -/
theorem removeRequest (h : Settled hasty rows) (hk : rows.requests.Keyed Request.id) (id : Int) :
    Settled hasty (rows.removeRequest id) where
  confirmed i l hl ha := by
    obtain ⟨hl, hne⟩ := Table.get?_filter_eq_some.1 hl
    refine (h.confirmed i l hl ha).imp_right fun ⟨r, hr, hc⟩ => ?_
    refine ⟨r, Table.get?_filter_eq_some.2 ⟨hr, ?_⟩, hc⟩
    rw [hk _ _ hr]
    exact hne
  single i j l m hl hm :=
    h.single i j l m (Table.get?_filter_eq_some.1 hl).1 (Table.get?_filter_eq_some.1 hm).1

/-- **A line of an open request may be taken**, since none else of it was accepted but in haste. -/
theorem take (h : Settled hasty rows) {last : Int} (hb : Book.Linked ⟨rows, last⟩) {x : Desk.Held}
    (hx : x.In rows) (hp : x.request.isPending) (status : LineStatus) (by_ : String)
    (now : Instant) : Settled hasty (rows.take x status by_ now) := by
  have hget := hx.request
  rw [hb.request_line hx] at hget
  -- Lines and requests stand in different tables, so the request may as well be confirmed first.
  have hfirst := h.confirmRequests (·.id == x.request.id) now
  have hmark := hfirst.mark hb.keyed.lines hx.line status now (Or.inr (Or.inr ⟨?_, ?_⟩))
  · exact (hmark.cancel (·.offer == x.offer.id) by_ .alternativeOption now).cancel
      (fun l => [x.request.id].contains l.request) by_ .alternativeOption now
  · refine ⟨_, Table.get?_map_eq_some.2 ⟨x.request, hget, rfl⟩, ?_⟩
    rw [if_pos (beq_self_eq_true _)]
  · intro j m hm ha he
    rcases h.confirmed j m hm ha with hj | ⟨r, hr, hc⟩
    · exact hj
    · rw [he, hget] at hr
      obtain rfl := Option.some.inj hr
      rw [Request.isPending, hc] at hp
      cases hp

end Settled
end Rows

/-- **Deeds keep accepted lines apart**, if a package that is created for an open line makes the
line hasty. -/
theorem Deed.settled {t : Task} {b b' : Book} {hasty hasty' : Int → Prop} (hd : Deed t b b')
    (hb : b.Linked) (h : b.rows.Settled hasty) (hh : ∀ i, hasty i → hasty' i)
    (hx : ∀ line caller now, t = .operate (.createPackage line) caller now →
      (∃ l, b.rows.lines.get? line = some l ∧ l.isPending) →
      (∃ l, b'.rows.lines.get? line = some l ∧ l.status = .packageCreated) → hasty' line) :
    b'.rows.Settled hasty' := by
  have h := h.mono hh
  cases hd with
  | openRequest hs hn hlast => exact h.putRequest hb.requests hn
  | deleteRequest hr hp hl hlast => exact h.removeRequest hb.keyed.requests _
  | propose hc hr hp hs ho hl hlast => exact .putLines _ (h.of_eq rfl rfl)
  | confirm hh hc hp hm hk hn hlast => exact (h.take hb hh hp _ _ _).sign _ _
  | accept hh hs ho hx hp hm hlast => exact h.take hb hh hp _ _ _
  | createPackage hh hm hk hn hlast =>
    refine (h.mark hb.keyed.lines hh.line _ _ ?_).sign _ _
    rcases canMove_packageCreated hm with hs | hs
    · refine Or.inr (Or.inl (hx _ _ _ rfl ⟨_, hh.line, by simp [Line.isPending, hs]⟩ ⟨_,
        Table.get?_map_eq_some.2 ⟨_, Table.get?_map_eq_some.2 ⟨_, hh.line, rfl⟩, rfl⟩, ?_⟩))
      simp [Line.withStatus, Line.withContract, ContractDraft.toContract, ContractDraft.forLine]
    · exact Or.inl (by rw [hs]; rfl)
  | setGuaranteeEnd hk hat hlast => exact h.of_eq rfl rfl
  | cancel hr hids hlast => exact h.cancel _ _ _ _
  | decline ho hr hs hlast => exact h.cancel _ _ _ _
  | withdraw hrs hlast => exact (h.cancel _ _ _ _).confirmRequests _ _
  | addCeiling hn hlast => exact h.of_eq rfl rfl
  | expire hlast => exact h.cancel _ _ _ _
  | declineBatch hrs hlast => exact (h.cancel _ _ _ _).confirmRequests _ _
  | record ht hn hlast => exact h.of_eq rfl rfl

end LoanDesk
