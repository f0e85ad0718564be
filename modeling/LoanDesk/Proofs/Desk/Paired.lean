/-
# Lines and their contracts

A line has a contract if and only if its package is created, and the contract has the terms of the
line and of its request (`Rows.Paired`). Packages are created in several writes: the status first,
then the contract, and the number of the contract in the line last. So the statement is relative to
a set of lines whose contract is still due, and none is when the transaction commits.
-/

import LoanDesk.Proofs.Desk.Accepted
import LoanDesk.Proofs.Time.Order

namespace LoanDesk

open LineStatus (canMove)

/-- The contract has the terms of a request and of a line. -/
structure Contract.Of (k : Contract) (r : Request) (l : Line) : Prop where
  request : k.request = r.id
  investor : k.investor = r.investor
  account : k.account = r.account
  symbol : k.symbol = r.symbol
  loan : k.loan = l.loan

namespace Rows

/-- Lines whose package is created, but for those whose contract is due, have a contract of their
own; all others have none. No contract ends its guarantee before it was written. -/
structure Paired (due : Int → Prop) (rows : Rows) : Prop where
  created : ∀ i l, rows.lines.get? i = some l → l.status = .packageCreated →
    due i ∨ ∃ n k, l.contract = some n ∧ rows.contracts.get? n = some k ∧ k.line = i
  bare : ∀ i l, rows.lines.get? i = some l → l.status ≠ .packageCreated ∨ due i → l.contract = none
  signed : ∀ n k, rows.contracts.get? n = some k → ¬due k.line ∧ ∃ l r,
    rows.lines.get? k.line = some l ∧ l.status = .packageCreated ∧ l.contract = some n ∧
      rows.requests.get? l.request = some r ∧ k.Of r l
  ended : ∀ n k e, rows.contracts.get? n = some k → k.guaranteeEndedAt = some e → ¬e < k.createdAt

namespace Paired

variable {due : Int → Prop} {rows : Rows}

/-- The empty rows are paired. -/
theorem empty (due : Int → Prop) : Paired due Rows.empty where
  created i l h := by simp [Rows.empty] at h
  bare i l h := by simp [Rows.empty] at h
  signed n k h := by simp [Rows.empty] at h
  ended n k e h := by simp [Rows.empty] at h

/-- Requests, lines and contracts are the same. -/
theorem of_eq {rows' : Rows} (h : Paired due rows) (hr : rows'.requests = rows.requests)
    (hl : rows'.lines = rows.lines) (hk : rows'.contracts = rows.contracts) : Paired due rows' :=
  ⟨by rw [hl, hk]; exact h.created, by rw [hl]; exact h.bare, by rw [hr, hl, hk]; exact h.signed,
    by rw [hk]; exact h.ended⟩

/-- A contract keeps the terms of its request when the status of that changes. -/
theorem setRequests (h : Paired due rows) (p : Request → Bool) (status : RequestStatus)
    (now : Instant) : Paired due (rows.setRequests p status now) where
  created := h.created
  bare := h.bare
  signed n k hk := by
    obtain ⟨hd, l, r, hl, hs, hc, hr, hof⟩ := h.signed n k hk
    refine ⟨hd, l, _, hl, hs, hc, Table.get?_map_eq_some.2 ⟨r, hr, rfl⟩, ?_⟩
    split
    · exact ⟨hof.request, hof.investor, hof.account, hof.symbol, hof.loan⟩
    · exact hof
  ended := h.ended

/-- Lines may change as long as they keep their terms and contracts, and no package is created. -/
theorem mapLines (h : Paired due rows) {f : Line → Line}
    (hf : ∀ i l, rows.lines.get? i = some l → (f l).request = l.request ∧ (f l).loan = l.loan ∧
      (f l).contract = l.contract ∧ ((f l).status = .packageCreated ↔ l.status = .packageCreated)) :
    Paired due { rows with lines := rows.lines.map f } where
  created i l hl hs := by
    obtain ⟨l₀, hl₀, rfl⟩ := Table.get?_map_eq_some.1 hl
    obtain ⟨-, -, hc, hiff⟩ := hf i l₀ hl₀
    rw [hc]
    exact h.created i l₀ hl₀ (hiff.1 hs)
  bare i l hl hs := by
    obtain ⟨l₀, hl₀, rfl⟩ := Table.get?_map_eq_some.1 hl
    obtain ⟨-, -, hc, hiff⟩ := hf i l₀ hl₀
    rw [hc]
    exact h.bare i l₀ hl₀ (hs.imp_left (mt hiff.2))
  signed n k hk := by
    obtain ⟨hd, l, r, hl, hs, hc, hr, hof⟩ := h.signed n k hk
    obtain ⟨hreq, hloan, hcontract, hiff⟩ := hf _ l hl
    exact ⟨hd, f l, r, Table.get?_map_eq_some.2 ⟨l, hl, rfl⟩, hiff.2 hs, hcontract.trans hc,
      by rw [hreq]; exact hr, ⟨hof.request, hof.investor, hof.account, hof.symbol,
        hof.loan.trans hloan.symm⟩⟩
  ended := h.ended

/-- Cancelled lines were pending, and had no contract. -/
theorem cancel (h : Paired due rows) (p : Line → Bool) (by_ : String) (reason : CancelReason)
    (now : Instant) : Paired due (rows.cancel p by_ reason now) := by
  refine h.mapLines fun i l _ => ?_
  split
  · rename_i hp
    have hs : l.status = .pending := by
      simpa [Line.isPending] using (Bool.and_eq_true_iff.1 hp).1
    have hn : l.status ≠ .packageCreated := by rw [hs]; decide
    exact ⟨rfl, rfl, rfl, iff_of_false LineStatus.noConfusion hn⟩
  · exact ⟨rfl, rfl, rfl, Iff.rfl⟩

/-- A line without a contract moves on to a status other than a created package. -/
theorem move (h : Paired due rows) {x : Line} (hk : rows.lines.Keyed Line.id)
    (hx : rows.lines.get? x.id = some x) (hn : x.status ≠ .packageCreated) {status : LineStatus}
    (hs : status ≠ .packageCreated) (now : Instant) :
    Paired due (rows.setLines (fun l => [x.id].contains l.id) status now) := by
  refine h.mapLines fun i l hl => ?_
  split
  · rename_i hp
    have he : l.id = x.id := by simpa using hp
    rw [← hk i l hl, he, hx] at hl
    obtain rfl := Option.some.inj hl
    exact ⟨rfl, rfl, rfl, ⟨fun h => absurd h hs, fun h => absurd h hn⟩⟩
  · exact ⟨rfl, rfl, rfl, Iff.rfl⟩

/-- Once the package of a line is created its contract is due. -/
theorem mark (h : Paired (fun _ => False) rows) {x : Line} (hk : rows.lines.Keyed Line.id)
    (hx : rows.lines.get? x.id = some x) (hn : x.status ≠ .packageCreated) (now : Instant) :
    Paired (· = x.id) (rows.setLines (fun l => [x.id].contains l.id) .packageCreated now) := by
  constructor
  · intro i l hl hs
    rcases (get?_setLines_one hk hx).1 hl with ⟨hi, -⟩ | ⟨-, hl⟩
    · exact Or.inl hi
    · exact Or.inr ((h.created i l hl hs).resolve_left id)
  · intro i l hl hs
    rcases (get?_setLines_one hk hx).1 hl with ⟨-, rfl⟩ | ⟨hi, hl⟩
    · exact h.bare _ x hx (Or.inl hn)
    · exact h.bare i l hl (Or.inl (hs.resolve_right hi))
  · intro n k hkn
    obtain ⟨-, l, r, hl, hs, hc, hr, hof⟩ := h.signed n k hkn
    have hne : k.line ≠ x.id := by
      intro he
      rw [he, hx] at hl
      obtain rfl := Option.some.inj hl
      exact hn hs
    exact ⟨hne, l, r, (get?_setLines_one hk hx).2 (Or.inr ⟨hne, hl⟩), hs, hc, hr, hof⟩
  · exact h.ended

/-- The contract that is due is written, and the line gets its number. -/
theorem sign {x : Int} (h : Paired (· = x) rows) (hk : rows.lines.Keyed Line.id) {last : Int}
    (hu : rows.contracts.Upto last) {k : Contract} (hid : last < k.id) (hx : k.line = x) {l : Line}
    {r : Request} (hl : rows.lines.get? x = some l) (hs : l.status = .packageCreated)
    (hr : rows.requests.get? l.request = some r) (hof : k.Of r l) (he : k.guaranteeEndedAt = none)
    (now : Instant) : Paired (fun _ => False) (rows.sign k now) := by
  subst hx
  have hline : ∀ i m, (rows.sign k now).lines.get? i = some m ↔
      i = k.line ∧ m = l.withContract k.id now ∨ i ≠ k.line ∧ rows.lines.get? i = some m :=
    fun _ _ => hk.get?_change_one hl fun _ => by simp
  have hput : (rows.sign k now).contracts.get? k.id = some k :=
    Table.get?_insert_eq_some.2 (Or.inl ⟨rfl, rfl⟩)
  constructor
  · intro i m hm hms
    rcases (hline i m).1 hm with ⟨rfl, rfl⟩ | ⟨hi, hm⟩
    · exact Or.inr ⟨k.id, k, rfl, hput, rfl⟩
    · obtain ⟨n, k', hc, hk', he⟩ := (h.created i m hm hms).resolve_left hi
      exact Or.inr ⟨n, k', hc, hu.get?_insert hid hk', he⟩
  · intro i m hm hms
    rcases (hline i m).1 hm with ⟨-, rfl⟩ | ⟨-, hm⟩
    · exact absurd hs (hms.resolve_right id)
    · exact h.bare i m hm (Or.inl (hms.resolve_right id))
  · intro n k' hk'
    refine ⟨id, ?_⟩
    rcases Table.get?_insert_eq_some.1 hk' with ⟨rfl, rfl⟩ | ⟨-, hk'⟩
    · exact ⟨_, r, (hline _ _).2 (Or.inl ⟨rfl, rfl⟩), hs, rfl, hr, hof.request, hof.investor,
        hof.account, hof.symbol, hof.loan⟩
    · obtain ⟨hne, m, r', hm, hms, hc, hr', hof'⟩ := h.signed n k' hk'
      exact ⟨m, r', (hline _ m).2 (Or.inr ⟨hne, hm⟩), hms, hc, hr', hof'⟩
  · intro n k' e hk' hend
    rcases Table.get?_insert_eq_some.1 hk' with ⟨-, rfl⟩ | ⟨-, hk'⟩
    · rw [he] at hend
      cases hend
    · exact h.ended n k' e hk' hend

/-- The end of a guarantee comes no earlier than its contract. -/
theorem endGuarantee (h : Paired due rows) (hk : rows.contracts.Keyed Contract.id) {k : Contract}
    (hget : rows.contracts.get? k.id = some k) {at_ : Instant} (hat : ¬at_ < k.createdAt) :
    Paired due (rows.endGuarantee k.id at_) where
  created i l hl hs := by
    refine (h.created i l hl hs).imp_right fun ⟨n, k', hc, hk', hline⟩ => ?_
    refine ⟨n, _, hc, Table.get?_map_eq_some.2 ⟨k', hk', rfl⟩, ?_⟩
    split <;> exact hline
  bare := h.bare
  signed n k' hk' := by
    obtain ⟨k₀, hk₀, rfl⟩ := Table.get?_map_eq_some.1 hk'
    have hsame : (if k₀.id == k.id then { k₀ with guaranteeEndedAt := some at_ } else k₀).line =
        k₀.line := by split <;> rfl
    obtain ⟨hd, l, r, hl, hs, hc, hr, hof⟩ := h.signed n k₀ hk₀
    rw [hsame]
    refine ⟨hd, l, r, hl, hs, hc, hr, ?_⟩
    split
    · exact ⟨hof.request, hof.investor, hof.account, hof.symbol, hof.loan⟩
    · exact hof
  ended n k' e hk' he := by
    rcases (hk.get?_change_one hget fun _ => by simp).1 hk' with ⟨-, rfl⟩ | ⟨-, hk'⟩
    · obtain rfl := Option.some.inj he
      exact hat
    · exact h.ended n k' e hk' he

/-- A new request has no contract. -/
theorem putRequest (h : Paired due rows) {last : Int} (hu : rows.requests.Upto last) {r : Request}
    (hr : last < r.id) : Paired due (rows.putRequest r) where
  created := h.created
  bare := h.bare
  signed n k hk := by
    obtain ⟨hd, l, r', hl, hs, hc, hr', hof⟩ := h.signed n k hk
    exact ⟨hd, l, r', hl, hs, hc, hu.get?_insert hr hr', hof⟩
  ended := h.ended

/-- A new line has no contract. -/
theorem putLine (h : Paired due rows) {last : Int} (hu : rows.lines.Upto last) {l : Line}
    (hid : last < l.id) (hs : l.isPending) (hc : l.contract = none) :
    Paired due (rows.putLine l) where
  created i m hm hms := by
    rcases Table.get?_insert_eq_some.1 hm with ⟨-, rfl⟩ | ⟨-, hm⟩
    · rw [Line.isPending, hms] at hs
      cases hs
    · exact h.created i m hm hms
  bare i m hm hms := by
    rcases Table.get?_insert_eq_some.1 hm with ⟨-, rfl⟩ | ⟨-, hm⟩
    · exact hc
    · exact h.bare i m hm hms
  signed n k hk := by
    obtain ⟨hd, m, r, hm, hms, hcm, hr, hof⟩ := h.signed n k hk
    exact ⟨hd, m, r, hu.get?_insert hid hm, hms, hcm, hr, hof⟩
  ended := h.ended

/-- Neither have the lines of a batch. -/
theorem putLines {offer request : Int} {now : Instant} : ∀ (ds : List LineDraft) {n m : Int}
    {rows : Rows}, Paired due rows → rows.lines.Upto n → n < m →
      Paired due ((LineDraft.toLines offer request now m ds).foldl Rows.putLine rows)
  | [], _, _, _, h, _, _ => h
  | d :: ds, _, m, _, h, hu, hm =>
    putLines ds (h.putLine (l := d.toLine m offer request now) hu hm rfl rfl)
      (hu.insert (Int.le_of_lt hm) _) (Int.lt_succ m)

/-- A request goes only when none of its lines has a contract. -/
theorem removeRequest (h : Paired due rows) (hk : rows.requests.Keyed Request.id) {id : Int}
    (hn : ∀ i l, rows.lines.get? i = some l → l.request = id → l.status.isAccepted = false) :
    Paired due (rows.removeRequest id) where
  created i l hl := h.created i l (Table.get?_filter_eq_some.1 hl).1
  bare i l hl := h.bare i l (Table.get?_filter_eq_some.1 hl).1
  signed n k hkn := by
    obtain ⟨hd, l, r, hl, hs, hc, hr, hof⟩ := h.signed n k hkn
    have hne : l.request ≠ id := by
      intro he
      have ha := hn _ l hl he
      rw [hs] at ha
      cases ha
    refine ⟨hd, l, r, Table.get?_filter_eq_some.2 ⟨hl, by simpa using hne⟩, hs, hc,
      Table.get?_filter_eq_some.2 ⟨hr, ?_⟩, hof⟩
    rw [hk _ r hr]
    simpa using hne
  ended := h.ended

end Paired

/-! ### After a line was taken -/

/-- The line that is taken has its new status. -/
theorem get?_lines_take {rows : Rows} {x : Desk.Held}
    (hx : rows.lines.get? x.line.id = some x.line) {status : LineStatus}
    (hs : status.isAccepted) (by_ : String) (now : Instant) :
    (rows.take x status by_ now).lines.get? x.line.id = some (x.line.withStatus status now) := by
  have hp : ((x.line.withStatus status now).isPending) = false := by
    cases status <;> first | rfl | cases hs
  refine Table.get?_map_eq_some.2 ⟨_, Table.get?_map_eq_some.2 ⟨_, Table.get?_map_eq_some.2
    ⟨x.line, hx, if_pos (by simp)⟩, if_neg ?_⟩, if_neg ?_⟩
  · simp [hp]
  · simp [hp]

/-! ### One to one -/

/-- Lines whose package is created and contracts stand one to one, on the same terms. The guarantee
of a contract does not end before the contract was written. -/
structure OneToOne (rows : Rows) : Prop where
  created : ∀ i l, rows.lines.get? i = some l → (l.status = .packageCreated ↔
    ∃ n k, l.contract = some n ∧ rows.contracts.get? n = some k ∧ k.line = i)
  bare : ∀ i l, rows.lines.get? i = some l → l.status ≠ .packageCreated →
    l.contract = none ∧ ∀ n k, rows.contracts.get? n = some k → k.line ≠ i
  terms : ∀ n k, rows.contracts.get? n = some k → ∃ l r, rows.lines.get? k.line = some l ∧
    rows.requests.get? l.request = some r ∧ k.Of r l
  unique : ∀ n n' k k', rows.contracts.get? n = some k → rows.contracts.get? n' = some k' →
    k.line = k'.line → n = n'
  ended : ∀ n k at_, rows.contracts.get? n = some k → k.guaranteeEndedAt = some at_ →
    k.createdAt ≤ at_

/-- Rows are paired one to one when no contract is due. -/
theorem Paired.oneToOne {rows : Rows} (h : Paired (fun _ => False) rows) : OneToOne rows where
  created i l hl := by
    refine ⟨fun hs => (h.created i l hl hs).resolve_left id, ?_⟩
    rintro ⟨n, k, -, hk, rfl⟩
    obtain ⟨-, l', r, hl', hs, -⟩ := h.signed n k hk
    rw [hl] at hl'
    rw [Option.some.inj hl']
    exact hs
  bare i l hl hs := by
    refine ⟨h.bare i l hl (Or.inl hs), ?_⟩
    rintro n k hk rfl
    obtain ⟨-, l', r, hl', hs', -⟩ := h.signed n k hk
    rw [hl] at hl'
    rw [Option.some.inj hl'] at hs
    exact hs hs'
  terms n k hk := by
    obtain ⟨-, l, r, hl, -, -, hr, hof⟩ := h.signed n k hk
    exact ⟨l, r, hl, hr, hof⟩
  unique n n' k k' hk hk' he := by
    obtain ⟨-, l, r, hl, -, hc, -⟩ := h.signed n k hk
    obtain ⟨-, l', r', hl', -, hc', -⟩ := h.signed n' k' hk'
    rw [← he, hl] at hl'
    rw [← Option.some.inj hl', hc] at hc'
    exact Option.some.inj hc'
  ended n k at_ hk he := not_lt.1 (h.ended n k at_ hk he)

end Rows

/-- **Deeds keep lines and contracts paired.** -/
theorem Deed.paired {t : Task} {b b' : Book} (hd : Deed t b b') (hb : b.Linked)
    (h : b.rows.Paired fun _ => False) : b'.rows.Paired fun _ => False := by
  have hmoved : ∀ {flow source target}, canMove flow source target → source ≠ .packageCreated := by
    rintro flow source target hm rfl
    cases hm
  cases hd with
  | openRequest hs hn hlast => exact h.putRequest hb.requests hn
  | deleteRequest hr hp hl hlast =>
    exact h.removeRequest hb.keyed.requests fun i l hget => hl l (Table.mem_values.2 ⟨i, hget⟩)
  | propose hc hr hp hs ho hl hlast =>
    refine .putLines (n := b.last) _ (h.of_eq rfl rfl rfl) ?_ (by omega)
    exact hb.lines
  | @confirm _ caller now _ x n last hx hc hp hm hk hn hlast =>
    have hmark := h.mark hb.keyed.lines hx.line (hmoved hm) now
    have htake : Rows.Paired (· = x.line.id) (b.rows.take x .packageCreated caller.name now) :=
      ((hmark.cancel _ _ _ _).cancel _ _ _ _).setRequests _ _ _
    have hget := hx.request
    rw [hb.request_line hx] at hget
    exact htake.sign (hb.take _ _ _ _).keyed.lines hb.contracts hn rfl
      (Rows.get?_lines_take hx.line rfl _ _) rfl (Rows.get?_requests_take hget _ _ _)
      ⟨rfl, rfl, rfl, rfl, rfl⟩ rfl now
  | accept hh hs ho hx hp hm hlast =>
    have hne : LineStatus.creatingPackage ≠ .packageCreated := nofun
    exact (((h.move hb.keyed.lines hh.line (hmoved hm) hne _).cancel _ _ _ _).cancel _ _ _
      _).setRequests _ _ _
  | @createPackage _ now _ x n last hx hm hk hn hlast =>
    have hget := hx.request
    rw [hb.request_line hx] at hget
    exact (h.mark hb.keyed.lines hx.line (hmoved hm) now).sign (hb.setLines _ _ _).keyed.lines
      hb.contracts hn rfl (Table.get?_map_eq_some.2 ⟨x.line, hx.line, if_pos (by simp)⟩) rfl hget
      ⟨rfl, rfl, rfl, rfl, rfl⟩ rfl now
  | setGuaranteeEnd hk hat hlast => exact h.endGuarantee hb.keyed.contracts hk hat
  | cancel hr hids hlast => exact h.cancel _ _ _ _
  | decline ho hr hs hlast => exact h.cancel _ _ _ _
  | withdraw hrs hlast => exact (h.cancel _ _ _ _).setRequests _ _ _
  | addCeiling hn hlast => exact h.of_eq rfl rfl rfl
  | expire hlast => exact h.cancel _ _ _ _
  | declineBatch hrs hlast => exact (h.cancel _ _ _ _).setRequests _ _ _
  | record ht hn hlast => exact h.of_eq rfl rfl rfl

end LoanDesk
