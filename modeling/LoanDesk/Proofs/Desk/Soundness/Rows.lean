/-
# Rows that keep the rules

What is submitted is checked once, before it is stored, and rows are never checked again:

| row | checked by | keeps |
| --- | --- | --- |
| request | `RequestDraft.flaw?` | an underlying with terms of its own, or a derivative with zeros |
| line | `LineDraft.flaw?` | a limit, two rates and a term |
| ceiling | `Ceiling.flaw?` | a rate between zero and one |

All the same the rules hold of every row in every world of a history (`History.rows_sound`), because
whatever changes a row later leaves its terms alone (`Deed.sound`).
-/

import LoanDesk.Proofs.Desk.Cancelled
import LoanDesk.Proofs.Store.Latest

namespace LoanDesk

/-- The request keeps the rules of its asset, and has zeros or nothing where the other asset has its
terms. -/
def Request.Sound (r : Request) : Prop :=
  (r.asset = .underlying ∧ Decimal.zero < r.loanRate ∧ r.loanRate < Decimal.one ∧
      Decimal.zero < r.limitAmount ∧ r.initialRate = none ∧ r.contractSize = none) ∨
    (r.asset = .derivative ∧ r.loanRate = Decimal.zero ∧ r.limitAmount = Decimal.zero ∧
      (∃ rate, r.initialRate = some rate ∧ Terms.minInitialRate ≤ rate ∧
        rate ≤ Terms.maxInitialRate) ∧
      ∃ size, r.contractSize = some size ∧ 0 < size)

/-- The limit and the term of the line are positive, and its rates lie between zero and one. -/
structure Line.Sound (l : Line) : Prop where
  limit : Decimal.zero < l.limitAmount
  loanRate : Decimal.zero ≤ l.loanRate ∧ l.loanRate ≤ Decimal.one
  interestRate : Decimal.zero ≤ l.interestRate ∧ l.interestRate ≤ Decimal.one
  term : 0 < l.termDays

/-- The ceiling lies between zero and one. -/
def Ceiling.Sound (c : Ceiling) : Prop :=
  Decimal.zero < c.maximumRate ∧ c.maximumRate < Decimal.one

/-- What has no flaw is sound when it is stored. -/
theorem RequestDraft.sound_toRequest {d : RequestDraft} (h : d.flaw? = none) (id : Int)
    (now : Instant) : (d.toRequest id now).Sound := by
  unfold flaw? at h
  split at h
  · cases h
  unfold Terms.flaw? at h
  cases hterms : d.terms with
  | underlying rate limit =>
    simp only [hterms] at h
    left
    simp only [toRequest, hterms]
    grind [Terms.asset, Decimal.not_le]
  | derivative rate size =>
    simp only [hterms] at h
    right
    simp only [toRequest, hterms]
    grind [Terms.asset, Decimal.not_lt]

/-- A line without a flaw is sound when it is stored. -/
theorem LineDraft.sound_toLine {d : LineDraft} (h : d.flaw? = none) (id offer request : Int)
    (now : Instant) : (d.toLine id offer request now).Sound := by
  unfold flaw? at h
  have hlimit : ¬d.limitAmount ≤ Decimal.zero := by grind
  have hloan : ¬d.loanRate < Decimal.zero ∧ ¬Decimal.one < d.loanRate := by grind
  have hinterest : ¬d.interestRate < Decimal.zero ∧ ¬Decimal.one < d.interestRate := by grind
  have hterm : ¬d.termDays ≤ 0 := by grind
  simp only [Decimal.not_le, Decimal.not_lt] at hlimit hloan hinterest
  exact ⟨hlimit, hloan, hinterest, Int.not_le.1 hterm⟩

/-- A ceiling without a flaw is sound. -/
theorem Ceiling.sound_of_flaw? {rate : Decimal} (h : flaw? rate = none) (id : Int)
    (affectedFrom now : Instant) : (⟨id, rate, affectedFrom, now⟩ : Ceiling).Sound := by
  unfold flaw? at h
  have hrate : ¬rate ≤ Decimal.zero ∧ ¬Decimal.one ≤ rate := by grind
  simp only [Decimal.not_le] at hrate
  exact hrate

/-- A proposal without a flaw has drafts without flaws only. -/
theorem Desk.draft_of_proposalFlaw? {c : Proposal} {now : Instant}
    (h : proposalFlaw? c now = none) : ∀ d ∈ c.lines, d.flaw? = none := by
  unfold proposalFlaw? at h
  split at h
  · cases h
  · split at h
    · cases h
    · rename_i hnone
      exact List.findSome?_eq_none_iff.1 hnone

namespace Rows

/-- All requests, lines and ceilings keep the rules. -/
structure Sound (rows : Rows) : Prop where
  requests : rows.requests.All Request.Sound
  lines : rows.lines.All Line.Sound
  ceilings : rows.ceilings.All Ceiling.Sound

namespace Sound

variable {rows : Rows}

/-- The empty rows are sound. -/
theorem empty : Sound Rows.empty where
  requests := Table.all_empty _
  lines := Table.all_empty _
  ceilings := Table.all_empty _

/-- Requests, lines and ceilings are the same. -/
theorem of_eq {rows' : Rows} (h : Sound rows) (hr : rows'.requests = rows.requests)
    (hl : rows'.lines = rows.lines) (hc : rows'.ceilings = rows.ceilings) : Sound rows' :=
  ⟨by rw [hr]; exact h.requests, by rw [hl]; exact h.lines, by rw [hc]; exact h.ceilings⟩

/-- The terms of a request stay when its status changes. -/
theorem setRequests (h : Sound rows) (p : Request → Bool) (status : RequestStatus) (now : Instant) :
    Sound (rows.setRequests p status now) :=
  { h with requests := h.requests.map fun r hr => by split <;> exact hr }

/-- The terms of a line stay when its status changes. -/
theorem setLines (h : Sound rows) (p : Line → Bool) (status : LineStatus) (now : Instant) :
    Sound (rows.setLines p status now) :=
  { h with lines := h.lines.map fun l hl => by split <;> exact ⟨hl.1, hl.2, hl.3, hl.4⟩ }

/-- The terms of a line stay when it is cancelled. -/
theorem cancel (h : Sound rows) (p : Line → Bool) (by_ : String) (reason : CancelReason)
    (now : Instant) : Sound (rows.cancel p by_ reason now) :=
  { h with lines := h.lines.map fun l hl => by split <;> exact ⟨hl.1, hl.2, hl.3, hl.4⟩ }

/-- Signing changes no terms. -/
theorem sign (h : Sound rows) (k : Contract) (now : Instant) : Sound (rows.sign k now) :=
  { h with lines := h.lines.map fun l hl => by split <;> exact ⟨hl.1, hl.2, hl.3, hl.4⟩ }

/-- Taking a line changes no terms. -/
theorem take (h : Sound rows) (x : Desk.Held) (status : LineStatus) (by_ : String) (now : Instant) :
    Sound (rows.take x status by_ now) :=
  (((h.setLines _ _ _).cancel _ _ _ _).cancel _ _ _ _).setRequests _ _ _

/-- Closing requests changes no terms. -/
theorem shut (h : Sound rows) (ids : List Int) (by_ : String) (reason : CancelReason)
    (now : Instant) : Sound (rows.shut ids by_ reason now) :=
  (h.cancel _ _ _ _).setRequests _ _ _

/-- New lines that are sound. -/
theorem putLines (h : Sound rows) {ls : List Line} (hls : ∀ l ∈ ls, l.Sound) :
    Sound (ls.foldl Rows.putLine rows) := by
  rw [Store.foldl_putLine]
  exact { h with lines := h.lines.foldl_insert hls }

end Sound
end Rows

/-- **Deeds keep the rules**: new rows are checked, and of old ones the terms stay. -/
theorem Deed.sound {t : Task} {b b' : Book} (hd : Deed t b b') (h : b.rows.Sound) :
    b'.rows.Sound := by
  cases hd with
  | openRequest hs hn hlast hc =>
    exact { h with requests := h.requests.insert (RequestDraft.sound_toRequest hc _ _) _ }
  | deleteRequest =>
    exact ⟨h.requests.filter _, h.lines.filter _, h.ceilings⟩
  | propose hc =>
    refine Rows.Sound.putLines (by exact h.of_eq rfl rfl rfl) fun l hl => ?_
    obtain ⟨d, hd, id, -, rfl⟩ := LineDraft.of_mem_toLines _ _ hl
    exact LineDraft.sound_toLine (Desk.draft_of_proposalFlaw? hc d hd) _ _ _ _
  | confirm => exact (h.take _ _ _ _).sign _ _
  | accept => exact h.take _ _ _ _
  | createPackage => exact (h.setLines _ _ _).sign _ _
  | setGuaranteeEnd => exact h.of_eq rfl rfl rfl
  | cancel | decline | expire => exact h.cancel _ _ _ _
  | withdraw | declineBatch => exact h.shut _ _ _ _
  | addCeiling hn hlast hc =>
    exact { h with ceilings := h.ceilings.insert (Ceiling.sound_of_flaw? hc _ _ _) _ }
  | record => exact h.of_eq rfl rfl rfl

/-- The rows of every world are sound. -/
theorem History.rows_sound {w : World} {ws : List World} (h : History (w :: ws)) :
    w.store.rows.Sound :=
  h.invariant .empty fun hd _ => hd.sound

end LoanDesk
