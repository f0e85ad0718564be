/-
# What stays of accepted lines

A line that was accepted stays an accepted line of its request, and a contract stays as it was but
for the end of its guarantee (`Rows.Keeps`). Every deed keeps them so (`Deed.keeps`): what is accepted
is past cancelling, and new rows stand at ids that no row had.
-/

import LoanDesk.Proofs.Desk.Links

namespace LoanDesk

open LineStatus (canMove)

/-- An open line is not accepted. -/
theorem Line.not_accepted_of_isPending {l : Line} (h : l.isPending) : l.status.isAccepted = false := by
  have hs : l.status = .pending := by simpa [Line.isPending] using h
  rw [hs]
  rfl

/-- Only an open line, or one whose package is being created, can become a created package. -/
theorem canMove_packageCreated {flow : Flow} {source : LineStatus}
    (h : canMove flow source .packageCreated) : source = .pending ∨ source = .creatingPackage := by
  cases source <;> simp_all [canMove, LineStatus.next]

namespace Rows

/-- Accepted lines stay accepted lines of their requests, contracts stay but for their guarantee. -/
structure Keeps (rows rows' : Rows) : Prop where
  line : ∀ i l, rows.lines.get? i = some l → l.status.isAccepted →
    ∃ l', rows'.lines.get? i = some l' ∧ l'.status.isAccepted ∧ l'.request = l.request
  contract : ∀ i k, rows.contracts.get? i = some k →
    ∃ e, rows'.contracts.get? i = some { k with guaranteeEndedAt := e }

namespace Keeps

variable {rows rows' rows'' : Rows}

/-- Two changes in a row that keep the accepted lines and the contracts keep them together. -/
theorem trans (h : Keeps rows rows') (h' : Keeps rows' rows'') : Keeps rows rows'' where
  line i l hl ha := by
    obtain ⟨l', hl', ha', hr'⟩ := h.line i l hl ha
    obtain ⟨l'', hl'', ha'', hr''⟩ := h'.line i l' hl' ha'
    exact ⟨l'', hl'', ha'', hr''.trans hr'⟩
  contract i k hk := by
    obtain ⟨e, hk'⟩ := h.contract i k hk
    exact h'.contract i { k with guaranteeEndedAt := e } hk'

/-- The lines and the contracts are the same. -/
theorem of_eq (hl : rows'.lines = rows.lines) (hk : rows'.contracts = rows.contracts) :
    Keeps rows rows' where
  line _ l h ha := ⟨l, by rw [hl]; exact h, ha, rfl⟩
  contract _ k h := ⟨k.guaranteeEndedAt, by rw [hk]; exact h⟩

/-- Writing a status on requests leaves the lines and the contracts alone. -/
theorem setRequests (p : Request → Bool) (status : RequestStatus) (now : Instant) :
    Keeps rows (rows.setRequests p status now) := of_eq rfl rfl

/-- So does rewriting the lines, when an accepted line stays accepted for its own request. -/
theorem mapLines {f : Line → Line}
    (hf : ∀ l, l.status.isAccepted → (f l).status.isAccepted ∧ (f l).request = l.request) :
    Keeps rows { rows with lines := rows.lines.map f } where
  line _ l hl ha := ⟨f l, Table.get?_map_eq_some.2 ⟨l, hl, rfl⟩, hf l ha⟩
  contract _ k hk := ⟨k.guaranteeEndedAt, hk⟩

/-- Moving lines to an accepted status unmakes no accepted line. -/
theorem setLines (p : Line → Bool) {status : LineStatus} (hs : status.isAccepted) (now : Instant) :
    Keeps rows (rows.setLines p status now) :=
  mapLines fun l ha => by
    split
    · exact ⟨hs, rfl⟩
    · exact ⟨ha, rfl⟩

/-- Cancelling passes over every accepted line. -/
theorem cancel (p : Line → Bool) (by_ : String) (reason : CancelReason) (now : Instant) :
    Keeps rows (rows.cancel p by_ reason now) :=
  mapLines fun l ha => by
    split
    · rename_i hp
      rw [Line.not_accepted_of_isPending (Bool.and_eq_true_iff.1 hp).1] at ha
      cases ha
    · exact ⟨ha, rfl⟩

/-- Attaching a contract changes neither the status of a line nor its request. -/
theorem attach (line contract : Int) (now : Instant) :
    Keeps rows (rows.attach line contract now) :=
  mapLines fun l ha => by split <;> exact ⟨ha, rfl⟩

/-- Ending a guarantee changes a contract only, which stays that of its line. -/
theorem endGuarantee (contract : Int) (at_ : Instant) :
    Keeps rows (rows.endGuarantee contract at_) where
  line _ l hl ha := ⟨l, hl, ha, rfl⟩
  contract _ k hk := by
    have hmap := Table.get?_map_eq_some (f := fun k : Contract =>
      if k.id == contract then { k with guaranteeEndedAt := some at_ } else k).2 ⟨k, hk, rfl⟩
    by_cases he : k.id == contract
    · exact ⟨some at_, by rw [if_pos he] at hmap; exact hmap⟩
    · exact ⟨k.guaranteeEndedAt, by rw [if_neg he] at hmap; exact hmap⟩

/-- A new line stands at an id that no line had. -/
theorem putLine {last : Int} (h : rows.lines.Upto last) {l : Line} (hl : last < l.id) :
    Keeps rows (rows.putLine l) where
  line _ l' hl' ha := ⟨l', h.get?_insert hl hl', ha, rfl⟩
  contract _ k hk := ⟨k.guaranteeEndedAt, hk⟩

/-- A new contract stands at an id that no contract had. -/
theorem putContract {n : Int} (h : rows.contracts.Upto n) {k : Contract} (hk : n < k.id) :
    Keeps rows (rows.putContract k) where
  line _ l hl ha := ⟨l, hl, ha, rfl⟩
  contract _ k' hk' := ⟨k'.guaranteeEndedAt, h.get?_insert hk hk'⟩

/-- Signing stores a new contract and attaches it. -/
theorem sign {n : Int} (h : rows.contracts.Upto n) {k : Contract} (hk : n < k.id)
    (now : Instant) : Keeps rows (rows.sign k now) :=
  (putContract h hk).trans (attach k.line k.id now)

/-- Accepting the held line keeps what was accepted before. -/
theorem take (h : Desk.Held) {status : LineStatus} (hs : status.isAccepted) (by_ : String)
    (now : Instant) : Keeps rows (rows.take h status by_ now) :=
  (((setLines _ hs now).trans (cancel _ _ _ _)).trans (cancel _ _ _ _)).trans (setRequests _ _ _)

/-- Removing a request keeps the accepted lines when none of its own lines is accepted. -/
theorem removeRequest {id : Int}
    (h : ∀ i l, rows.lines.get? i = some l → l.request = id → l.status.isAccepted = false) :
    Keeps rows (rows.removeRequest id) where
  line i l hl ha := by
    refine ⟨l, Table.get?_filter_eq_some.2 ⟨hl, ?_⟩, ha, rfl⟩
    have hne : l.request ≠ id := fun he => by rw [h i l hl he] at ha; cases ha
    simpa using hne
  contract _ k hk := ⟨k.guaranteeEndedAt, hk⟩

/-- The lines of a new batch all stand at fresh ids. -/
theorem putLines {offer request : Int} {now : Instant} : ∀ (ds : List LineDraft) {rows : Rows}
    {n m : Int}, rows.lines.Upto n → n < m →
      Keeps rows ((LineDraft.toLines offer request now m ds).foldl Rows.putLine rows)
  | [], _, _, _, _, _ => of_eq rfl rfl
  | d :: ds, _, _, m, h, hm =>
    (putLine (l := d.toLine m offer request now) h hm).trans
      (putLines ds (h.insert (Int.le_of_lt hm) _) (Int.lt_succ m))

end Keeps
end Rows

/-- **Deeds keep accepted lines and contracts.** -/
theorem Deed.keeps {t : Task} {b b' : Book} (hd : Deed t b b') (h : b.Linked) :
    b.rows.Keeps b'.rows := by
  cases hd with
  | openRequest hs hn hlast => exact .of_eq rfl rfl
  | deleteRequest hr hp hl hlast =>
    exact .removeRequest fun i l hget hreq => hl l (Table.mem_values.2 ⟨i, hget⟩) hreq
  | propose hc hr hp hs ho hl hlast =>
    refine .trans ?_ (.putLines (n := b.last) _ ?_ (by omega))
    · exact .of_eq rfl rfl
    · exact h.lines
  | confirm hh hc hp hm hk hn hlast =>
    refine (Rows.Keeps.take _ rfl _ _).trans (.sign (n := b.last) ?_ hn _)
    exact h.contracts
  | accept hh hs ho hx hp hm hlast => exact .take _ rfl _ _
  | createPackage hh hm hk hn hlast =>
    refine (Rows.Keeps.setLines _ rfl _).trans (.sign (n := b.last) ?_ hn _)
    exact h.contracts
  | setGuaranteeEnd hk hat hlast => exact .endGuarantee _ _
  | cancel hr hids hlast => exact .cancel _ _ _ _
  | decline ho hr hs hlast => exact .cancel _ _ _ _
  | withdraw hrs hlast => exact (Rows.Keeps.cancel _ _ _ _).trans (.setRequests _ _ _)
  | addCeiling hn hlast => exact .of_eq rfl rfl
  | expire hlast => exact .cancel _ _ _ _
  | declineBatch hrs hlast => exact (Rows.Keeps.cancel _ _ _ _).trans (.setRequests _ _ _)
  | record ht hn hlast => exact .of_eq rfl rfl

end LoanDesk
