/-
# Tables up to the numbers of contracts

A number that is given out is not given out again, whether what it was taken for is stored or not. So
tables are compared up to a permutation of the numbers that are still to be given out
(`Rows.Renumbered`). A task that cancels lines looks at no number of a contract, and does the same
before and after (`Rows.Renumbered.clear`).
-/

import LoanDesk.Proofs.Race.Encounter
import Mathlib.Logic.Equiv.Basic

namespace LoanDesk

/-! ### Tables up to the numbers of contracts -/

/-- The line with another number for its contract. -/
def Line.renumbered (σ : Int → Int) (l : Line) : Line := { l with contract := l.contract.map σ }

namespace Rows

/-- The second tables of the desk are the first with other numbers for contracts, where none that
was given out up to `last` is changed. -/
structure Renumbered (last : Int) (σ : Equiv.Perm Int) (rows rows' : Rows) : Prop where
  old : ∀ n, n ≤ last → σ n = n
  requests : rows'.requests = rows.requests
  offers : rows'.offers = rows.offers
  lines : rows'.lines = rows.lines.map (Line.renumbered σ)
  contracts : ∀ n, rows'.contracts.get? (σ n) =
    (rows.contracts.get? n).map fun k => { k with id := σ n }

/-- The contracts that are stored, and those of lines, have numbers that were given out. -/
structure Issued (last : Int) (rows : Rows) : Prop where
  keyed : rows.contracts.Keyed Contract.id
  contracts : rows.contracts.Upto last
  lines : ∀ i l n, rows.lines.get? i = some l → l.contract = some n → n ≤ last

/-- The contracts of a world have numbers that were given out. -/
theorem Issued.of_linked {rows : Rows} {last : Int} (h : Book.Linked ⟨rows, last⟩)
    (hp : rows.OneToOne) : rows.desk.Issued last where
  keyed := h.keyed.contracts
  contracts := h.contracts
  lines i l n hl hn := by
    by_cases hs : l.status = .packageCreated
    · obtain ⟨m, k, hm, hk, -⟩ := (hp.created i l hl).1 hs
      rw [hm] at hn
      rw [← Option.some.inj hn]
      exact h.contracts m k hk
    · rw [(hp.bare i l hl hs).1] at hn
      cases hn

namespace Renumbered

variable {last : Int} {σ : Equiv.Perm Int} {rows rows' : Rows}

/-- No number is changed. -/
theorem refl (hk : rows.contracts.Keyed Contract.id) :
    Renumbered last (Equiv.refl Int) rows rows where
  old _ _ := rfl
  requests := rfl
  offers := rfl
  lines := by
    have hid : Line.renumbered (Equiv.refl Int) = id := by
      funext l
      simp [Line.renumbered]
    rw [hid, Table.map_id]
  contracts n := by
    change rows.contracts.get? n = _
    cases hn : rows.contracts.get? n with
    | none => rfl
    | some k => rw [Option.map_some, Equiv.refl_apply, ← hk n k hn]

/-- What holds of a line that is there holds of the line with its other number. -/
theorem line (h : Renumbered last σ rows rows') {i : Int} {l : Line}
    (hl : rows'.lines.get? i = some l) :
    ∃ l₀, rows.lines.get? i = some l₀ ∧ l = l₀.renumbered σ := by
  rw [h.lines] at hl
  obtain ⟨l₀, hl₀, he⟩ := Table.get?_map_eq_some.1 hl
  exact ⟨l₀, hl₀, he.symm⟩

/-- Lines are cancelled by what does not depend on their contracts. -/
theorem cancel (h : Renumbered last σ rows rows') {p q : Line → Bool}
    (hp : ∀ l : Line, q (l.renumbered σ) = p l) (by_ : String) (reason : CancelReason)
    (now : Instant) :
    Renumbered last σ (rows.cancel p by_ reason now) (rows'.cancel q by_ reason now) :=
  { h with
    lines := by
      unfold Rows.cancel
      dsimp only
      rw [h.lines, Table.map_map, Table.map_map]
      congr 1
      funext l
      change (if l.isPending && q (l.renumbered σ) then _ else _) = _
      rw [hp]
      dsimp only [Function.comp]
      split <;> rfl }

/-- A request is removed, whatever the numbers of contracts. -/
theorem removeRequest (h : Renumbered last σ rows rows') (id : Int) :
    Renumbered last σ (rows.removeRequest id) (rows'.removeRequest id) where
  old := h.old
  requests := congrArg (fun t : Table Request => t.filter (·.id != id)) h.requests
  offers := congrArg (fun t : Table Offer => t.filter (·.request != id)) h.offers
  lines := Table.ext fun i => by
    change (rows'.lines.filter _).get? i = ((rows.lines.filter _).map _).get? i
    rw [h.lines, Table.get?_filter, Table.get?_map, Table.get?_map, Table.get?_filter]
    cases rows.lines.get? i with
    | none => rfl
    | some l =>
      simp only [Option.map_some, Option.filter_some, Line.renumbered]
      split <;> rfl
  contracts := h.contracts

/-- **The number of a new contract may be changed.** -/
theorem sign (h : rows.Issued last) {n m : Int} (hn : last < n) (hm : last < m) (d : ContractDraft)
    (now : Instant) : Renumbered last (Equiv.swap n m) (rows.sign (d.toContract n now) now)
      (rows.sign (d.toContract m now) now) where
  old k hk := Equiv.swap_apply_of_ne_of_ne (by omega) (by omega)
  requests := rfl
  offers := rfl
  lines := Table.ext fun i => by
    change (rows.lines.map _).get? i = ((rows.lines.map _).map _).get? i
    rw [Table.get?_map, Table.get?_map, Table.get?_map]
    cases hl : rows.lines.get? i with
    | none => rfl
    | some l =>
      refine congrArg some ?_
      dsimp only
      change (if l.id == d.line then l.withContract m now else l) =
        (if l.id == d.line then l.withContract n now else l).renumbered (Equiv.swap n m)
      split
      · simp [Line.renumbered, Line.withContract]
      · unfold Line.renumbered
        cases hc : l.contract with
        | none => rw [Option.map_none, ← hc]
        | some k =>
          have hk := h.lines i l k hl hc
          rw [Option.map_some, Equiv.swap_apply_of_ne_of_ne (by omega) (by omega), ← hc]
  contracts k := by
    change (rows.contracts.insert m (d.toContract m now)).get? _ =
      ((rows.contracts.insert n (d.toContract n now)).get? k).map _
    have hfree : ∀ j, last < j → rows.contracts.get? j = none := fun j hj => by
      cases hget : rows.contracts.get? j with
      | none => rfl
      | some x => exact absurd (h.contracts j x hget) (by omega)
    rw [Table.get?_insert, Table.get?_insert]
    by_cases hkn : n = k
    · subst hkn
      rw [Equiv.swap_apply_left, if_pos rfl, if_pos rfl]
      rfl
    · rw [if_neg hkn]
      by_cases hkm : m = k
      · subst hkm
        rw [Equiv.swap_apply_right, if_neg (Ne.symm hkn), hfree n hn, hfree m hm]
        rfl
      · rw [Equiv.swap_apply_of_ne_of_ne (Ne.symm hkn) (Ne.symm hkm), if_neg hkm]
        cases hget : rows.contracts.get? k with
        | none => rfl
        | some x => rw [Option.map_some, ← h.keyed k x hget]

end Renumbered
end Rows

/-! ### Strokes from the same rows -/

/-- The rows after the stroke of a task that cancels lines. -/
def Task.clear (t : Task) (rows : Rows) : Rows :=
  match t with
  | .operate (.cancel c) caller now =>
    rows.cancel (fun l => l.request == c.request && c.loans.contains l.loan) caller.name
      (if c.forInvestor then .investor else .admin) now
  | .operate (.decline offer) caller now => rows.cancel (·.offer == offer) caller.name .investor now
  | .operate (.deleteRequest id) _ _ => rows.removeRequest id
  | .expire actor now => rows.cancel (rows.lapsed now) actor .expired now
  | _ => rows

namespace Rows

variable {last : Int} {rows rows' : Rows}

/-- **A task that cancels lines looks at no number of a contract.** -/
theorem Renumbered.clear {σ : Equiv.Perm Int} (h : Renumbered last σ rows rows') (t : Task) :
    Renumbered last σ (t.clear rows) (t.clear rows') := by
  unfold Task.clear
  split
  · refine h.cancel (fun l => ?_) _ _ _
    rfl
  · refine h.cancel (fun l => ?_) _ _ _
    rfl
  · exact h.removeRequest _
  · refine h.cancel (fun l => ?_) _ _ _
    unfold lapsed
    rw [h.offers]
    rfl
  · exact h

/-- Cancelling gives out no number. -/
theorem Issued.cancel (h : rows.Issued last) (p : Line → Bool) (by_ : String)
    (reason : CancelReason) (now : Instant) : Issued last (rows.cancel p by_ reason now) :=
  { h with
    lines := fun i l n hl hn => by
      obtain ⟨l₀, hl₀, rfl⟩ := Table.get?_map_eq_some.1 hl
      refine h.lines i l₀ n hl₀ ?_
      split at hn <;> exact hn }

/-- Taking a line gives out no number. -/
theorem Issued.take (h : rows.Issued last) (x : Desk.Held) (status : LineStatus) (by_ : String)
    (now : Instant) : Issued last (rows.take x status by_ now) := by
  rw [take_eq]
  refine { h with lines := fun i l n hl hn => ?_ }
  obtain ⟨l₀, hl₀, rfl⟩ := Table.get?_map_eq_some.1 hl
  rw [x.settle_place.2.2.2] at hn
  exact h.lines i l₀ n hl₀ hn

/-- A task that cancels lines gives out no number of a contract. -/
theorem Issued.clear (h : rows.Issued last) (t : Task) : (t.clear rows).Issued last := by
  unfold Task.clear
  split
  · exact h.cancel _ _ _ _
  · exact h.cancel _ _ _ _
  · exact { h with lines := fun i l n hl hn => h.lines i l n (Table.get?_filter_eq_some.1 hl).1 hn }
  · exact h.cancel _ _ _ _
  · exact h

end Rows

/-- What is held is known from the number of the line. -/
theorem Desk.Held.In.eq {h h' : Held} {rows : Rows} (hh : h.In rows) (hh' : h'.In rows)
    (hid : h.line.id = h'.line.id) : h = h' := by
  obtain ⟨r, o, l⟩ := h
  obtain ⟨r', o', l'⟩ := h'
  obtain ⟨hr, ho, hl⟩ := hh
  obtain ⟨hr', ho', hl'⟩ := hh'
  dsimp only at hid hr ho hl hr' ho' hl'
  rw [hid, hl'] at hl
  obtain rfl := Option.some.inj hl
  rw [ho'] at ho
  obtain rfl := Option.some.inj ho
  rw [hr'] at hr
  obtain rfl := Option.some.inj hr
  rfl

namespace Stroke

variable {last last' : Int} {t : Task} {rows rows₁ rows₂ : Rows}

/-- A stroke may be made where fewer numbers were given out. -/
theorem mono (h : Stroke last' t rows rows₁) (hl : last ≤ last') : Stroke last t rows rows₁ := by
  cases h with
  | accept hh hp hl hs ho hx => exact .accept hh hp hl hs ho hx
  | confirm hh hp hl' hb hn => exact .confirm hh hp hl' hb (Int.lt_of_le_of_lt hl hn)
  | cancel hr hc hl => exact .cancel hr hc hl
  | decline ho hr hs hl hlo hp => exact .decline ho hr hs hl hlo hp
  | delete hr hp hl => exact .delete hr hp hl
  | expire => exact .expire

/-- The stroke of a task that cancels lines is known from the rows. -/
theorem eq_clear (h : Stroke last t rows rows₁) (ht : t.Cancels) : rows₁ = t.clear rows := by
  cases h with
  | accept => exact ht.elim
  | confirm => exact ht.elim
  | _ => rfl

/-- Strokes that accept a line differ in the number of the contract at most. -/
theorem agree (h : Stroke last t rows rows₁) (h' : Stroke last t rows rows₂) (ht : t.Accepts)
    (hi : rows.Issued last) : ∃ σ, Rows.Renumbered last σ rows₁ rows₂ := by
  generalize he : t = t' at h'
  cases h with
  | @accept _ x caller now hh =>
    cases h' with
    | @accept _ y caller' now' hh' =>
      simp only [Task.operate.injEq, Operation.accept.injEq, Acceptance.mk.injEq] at he
      obtain ⟨⟨-, hid⟩, rfl, rfl⟩ := he
      rw [hh.eq hh' hid]
      exact ⟨_, .refl hi.keyed⟩
    | _ => cases he
  | @confirm _ x c caller now n hh hp hl hb hn =>
    cases h' with
    | @confirm _ y c' caller' now' m hh' hp' hl' hb' hn' =>
      obtain ⟨rfl, rfl, rfl⟩ : c = c' ∧ caller = caller' ∧ now = now' := by simpa using he
      rw [hb] at hb'
      rw [hh.eq hh' (congrArg Line.id (Option.some.inj hb'))]
      exact ⟨_, .sign (hi.take _ _ _ _) hn hn' _ _⟩
    | _ => cases he
  | _ => exact ht.elim

/-- Where lines can be cancelled they can be with other numbers for contracts. -/
theorem renumbered {σ : Equiv.Perm Int} (h : Stroke last t rows₁ rows₂) (ht : t.Cancels)
    (hr : Rows.Renumbered last σ rows rows₁) : Stroke last t rows (t.clear rows) := by
  cases h with
  | accept => exact ht.elim
  | confirm => exact ht.elim
  | cancel hget hc hl =>
    refine .cancel (by rw [← hr.requests]; exact hget) hc fun loan hloan => ?_
    obtain ⟨i, l, hline, hreq, hll, hp⟩ := hl loan hloan
    obtain ⟨l₀, hl₀, rfl⟩ := hr.line hline
    exact ⟨i, l₀, hl₀, hreq, hll, hp⟩
  | decline ho hget hs hl hlo hp =>
    obtain ⟨l₀, hl₀, rfl⟩ := hr.line hl
    exact .decline (by rw [← hr.offers]; exact ho) (by rw [← hr.requests]; exact hget) hs hl₀ hlo hp
  | delete hget hp hl =>
    refine .delete (by rw [← hr.requests]; exact hget) hp fun i l hline hreq => ?_
    refine hl i (l.renumbered σ) ?_ hreq
    rw [hr.lines]
    exact Table.get?_map_eq_some.2 ⟨l, hline, rfl⟩
  | expire => exact .expire

end Stroke

end LoanDesk
