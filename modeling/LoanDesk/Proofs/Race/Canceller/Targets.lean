/-
# Lines to be cancelled

Which lines a cancellation means is decided on the lines as they were read: loan by loan the open
ones. Either there are some for each loan and all of them may be cancelled, or the cancellation is
refused (`Desk.targets_cases`). Nothing of this asks the store.
-/

import LoanDesk.Proofs.Desk.Order.Cancelling
import Mathlib.Tactic.Tauto

namespace LoanDesk
namespace Desk

open LineStatus (canMove)

section Bind

variable {α β : Type}

/-- Nothing follows a failure. -/
theorem throw_bind (x : Failure) (f : α → Action β) : (throw x : Action α) >>= f = throw x := rfl

/-- What follows a result is given it. -/
theorem pure_bind (a : α) (f : α → Action β) : (pure a : Action α) >>= f = f a := rfl

/-- Where there is no flaw the action goes on. -/
theorem ensureSound_none_bind (f : Unit → Action β) : ensureSound none >>= f = f () := rfl

end Bind

/-- All lines may be cancelled, or one may not and the check fails. -/
theorem ensureCancellable_cases (offers : List Offer) (ls : List Line) :
    (ensureCancellable offers ls = pure () ∧
      ∀ l ∈ ls, canMove (flowOf offers l.offer) l.status .cancelled) ∨
    ∃ x, ensureCancellable offers ls = throw x ∧
      ∃ l ∈ ls, ¬canMove (flowOf offers l.offer) l.status .cancelled := by
  induction ls with
  | nil => exact Or.inl ⟨rfl, fun _ hl => absurd hl List.not_mem_nil⟩
  | cons l ls ih =>
    rw [ensureCancellable]
    cases h : l.status.ensureMove (flowOf offers l.offer) .cancelled with
    | error x =>
      refine Or.inr ⟨.refused x, throw_bind _ _, l, List.mem_cons_self, fun hmove => ?_⟩
      rw [LineStatus.ensureMove, if_pos hmove] at h
      cases h
    | ok u =>
      rcases ih with ⟨hls, hall⟩ | ⟨x, hx, m, hm, hnot⟩
      · exact Or.inl ⟨hls, List.forall_mem_cons.2 ⟨canMove_of_ensure h, hall⟩⟩
      · exact Or.inr ⟨x, hx, m, List.mem_cons_of_mem _ hm, hnot⟩

/-- The lines that are cancelled for a loan are the open ones, and there is one; or there is none,
or one that may not be cancelled. -/
theorem openLines_cases (offers : List Offer) (lines : List Line) (loan : Int) :
    (openLines offers lines loan = pure (lines.filter fun l => l.isPending && l.loan == loan) ∧
      ∃ l ∈ lines, l.isPending ∧ l.loan = loan) ∨
    ∃ x, openLines offers lines loan = throw x ∧
      ((∀ l ∈ lines, l.isPending → l.loan ≠ loan) ∨
        ∃ l ∈ lines, l.isPending ∧ ¬canMove (flowOf offers l.offer) l.status .cancelled) := by
  unfold openLines
  cases hls : lines.filter (·.loan == loan) with
  | nil =>
    refine Or.inr ⟨_, rfl, Or.inl fun l hl _ hloan => ?_⟩
    exact List.filter_eq_nil_iff.1 hls l hl (by simpa using hloan)
  | cons l ls =>
    have hfilter : (l :: ls).filter (·.isPending) =
        lines.filter fun l => l.isPending && l.loan == loan := by
      rw [← hls, List.filter_filter]
    have hmem : ∀ m, m ∈ (l :: ls).filter (·.isPending) ↔
        m ∈ lines ∧ m.isPending ∧ m.loan = loan := by
      intro m
      rw [hfilter, List.mem_filter, Bool.and_eq_true, beq_iff_eq]
    dsimp only
    cases hp : (l :: ls).filter (·.isPending) with
    | nil =>
      -- the first line is not open, and then it cannot be cancelled
      have hnone : ∀ m ∈ lines, m.isPending → m.loan ≠ loan := by
        intro m hm hpm hloan
        have hin := (hmem m).2 ⟨hm, hpm, hloan⟩
        rw [hp] at hin
        cases hin
      rcases ensureCancellable_cases offers [l] with ⟨-, hall⟩ | ⟨x, hx, -⟩
      · have hmove := hall l List.mem_cons_self
        have hopen : l.isPending = false := by
          simpa using List.filter_eq_nil_iff.1 hp l List.mem_cons_self
        revert hmove hopen
        cases hs : l.status <;> simp [canMove, LineStatus.next, Line.isPending, hs]
      · refine Or.inr ⟨x, ?_, Or.inl hnone⟩
        rw [List.isEmpty_nil, if_pos rfl, hx]
        exact throw_bind _ _
    | cons m ms =>
      rw [hp] at hfilter hmem
      rcases ensureCancellable_cases offers (m :: ms) with ⟨hok, -⟩ | ⟨x, hx, k, hk, hnot⟩
      · refine Or.inl ⟨?_, m, (hmem m).1 List.mem_cons_self⟩
        rw [List.isEmpty_cons, if_neg Bool.false_ne_true, hok, ← hfilter]
        rfl
      · refine Or.inr ⟨x, ?_, Or.inr ⟨k, ((hmem k).1 hk).1, ((hmem k).1 hk).2.1, hnot⟩⟩
        rw [List.isEmpty_cons, if_neg Bool.false_ne_true, hx]
        exact throw_bind _ _

/-- The lines to be cancelled are the open ones with the loans, and there is one for each loan; or
there is none for some loan, or one that may not be cancelled. -/
theorem targets_cases (offers : List Offer) (lines : List Line) (loans : List Int) :
    (∃ ts, targets offers lines loans = pure ts ∧
      (∀ l, l ∈ ts ↔ l ∈ lines ∧ l.isPending ∧ l.loan ∈ loans) ∧
        ∀ loan ∈ loans, ∃ l ∈ lines, l.isPending ∧ l.loan = loan) ∨
    ∃ x, targets offers lines loans = throw x ∧
      ((∃ loan ∈ loans, ∀ l ∈ lines, l.isPending → l.loan ≠ loan) ∨
        ∃ l ∈ lines, l.isPending ∧ ¬canMove (flowOf offers l.offer) l.status .cancelled) := by
  induction loans with
  | nil => exact Or.inl ⟨[], rfl, by simp, by simp⟩
  | cons loan loans ih =>
    rw [targets]
    rcases openLines_cases offers lines loan with ⟨hok, hone⟩ | ⟨x, hx, hwhy⟩
    · rw [hok]
      rcases ih with ⟨ts, hts, hmem, hall⟩ | ⟨x, hx, hwhy⟩
      · refine Or.inl ⟨(lines.filter fun l => l.isPending && l.loan == loan) ++ ts, ?_, fun l => ?_,
          List.forall_mem_cons.2 ⟨hone, hall⟩⟩
        · rw [hts]
          rfl
        · rw [List.mem_append, List.mem_filter, hmem, List.mem_cons, Bool.and_eq_true, beq_iff_eq]
          tauto
      · rw [hx]
        refine Or.inr ⟨x, rfl, hwhy.imp_left fun ⟨k, hk, hnone⟩ => ?_⟩
        exact ⟨k, List.mem_cons_of_mem _ hk, hnone⟩
    · rw [hx]
      refine Or.inr ⟨x, throw_bind _ _, hwhy.imp_left fun hnone => ?_⟩
      exact ⟨loan, List.mem_cons_self, hnone⟩

/-- The numbers of the lines to be cancelled select the open lines of the request with the loans. -/
theorem contains_targets {rows : Rows} (hk : rows.Keyed) {ls ts : List Line} {request : Int}
    {loans : List Int}
    (hls : ∀ l, l ∈ ls ↔ ∃ i, rows.lines.get? i = some l ∧ l.request = request)
    (hts : ∀ l, l ∈ ts ↔ l ∈ ls ∧ l.isPending ∧ l.loan ∈ loans) {i : Int} {l : Line}
    (hl : rows.lines.get? i = some l) (hp : l.isPending) :
    (ts.map (·.id)).contains l.id = (l.request == request && loans.contains l.loan) := by
  rw [Bool.eq_iff_iff, List.contains_iff_mem, List.mem_map, Bool.and_eq_true, beq_iff_eq,
    List.contains_iff_mem]
  constructor
  · rintro ⟨t, ht, hid⟩
    obtain ⟨hmem, -, hloan⟩ := (hts t).1 ht
    obtain ⟨j, hj, hreq⟩ := (hls t).1 hmem
    rw [← hk.lines j t hj, hid, hk.lines i l hl, hl] at hj
    obtain rfl := Option.some.inj hj
    exact ⟨hreq, hloan⟩
  · rintro ⟨hreq, hloan⟩
    exact ⟨l, (hts l).2 ⟨(hls l).2 ⟨i, hl, hreq⟩, hp, hloan⟩, rfl⟩

end Desk
end LoanDesk
