/-
# The ceiling in force

Of the ceilings that are effective by now the latest is in force and, of one time, the one of the
greatest number (`Rows.InForce`). A walk over the ceilings finds it.
-/

import LoanDesk.Proofs.Store.Book
import LoanDesk.Proofs.Time.Order

namespace LoanDesk

/-- The ceiling is in force: of those effective by now it is the one effective last and, of one time,
the one of the greatest number. -/
structure Rows.InForce (rows : Rows) (now : Instant) (c : Ceiling) : Prop where
  stored : rows.ceilings.get? c.id = some c
  effective : c.affectedFrom ≤ now
  last : ∀ i d, rows.ceilings.get? i = some d → d.affectedFrom ≤ now →
    d.affectedFrom < c.affectedFrom ∨ d.affectedFrom = c.affectedFrom ∧ d.id ≤ c.id

namespace Store

/-- What is found is the latest of the ceilings that are effective. -/
theorem ceilingAt?_spec {now : Instant} {cs : List Ceiling} {c : Ceiling} (hc : c ∈ cs)
    (hnow : c.affectedFrom ≤ now) : ∃ d ∈ cs, ceilingAt? now cs = some d ∧ d.affectedFrom ≤ now ∧
      ∀ e ∈ cs, e.affectedFrom ≤ now →
        Instant.notBefore (e.affectedFrom, e.id) (d.affectedFrom, d.id) := by
  have hmem : c ∈ cs.filter (·.affectedFrom ≤ now) :=
    List.mem_filter.2 ⟨hc, decide_eq_true hnow⟩
  obtain ⟨d, hd, hfound, hlast⟩ : ∃ d ∈ cs.filter (·.affectedFrom ≤ now),
      ceilingAt? now cs = some d ∧ ∀ e ∈ cs.filter (·.affectedFrom ≤ now),
        Instant.notBefore (e.affectedFrom, e.id) (d.affectedFrom, d.id) :=
    Instant.foldl_latest (fun c : Ceiling => (c.affectedFrom, c.id)) (fun _ => rfl)
      (fun _ _ => rfl) (List.ne_nil_of_mem hmem)
  obtain ⟨hd, heff⟩ := List.mem_filter.1 hd
  exact ⟨d, hd, hfound, of_decide_eq_true heff, fun e he hnow =>
    hlast e (List.mem_filter.2 ⟨he, decide_eq_true hnow⟩)⟩

variable {rows : Rows} {now : Instant}

/-- None is found where none is effective. -/
theorem ceilingAt?_eq_none (h : ceilingAt? now rows.ceilings.values = none) (i : Int) (c : Ceiling)
    (hc : rows.ceilings.get? i = some c) : ¬c.affectedFrom ≤ now := by
  intro hnow
  obtain ⟨d, -, hd, -⟩ := ceilingAt?_spec (Table.mem_values.2 ⟨i, hc⟩) hnow
  rw [h] at hd
  cases hd

/-- The one that is found is in force. -/
theorem ceilingAt?_eq_some (hk : rows.Keyed) {c : Ceiling}
    (h : ceilingAt? now rows.ceilings.values = some c) : rows.InForce now c := by
  have hne : rows.ceilings.values.filter (·.affectedFrom ≤ now) ≠ [] := by
    intro hnil
    rw [ceilingAt?, hnil] at h
    cases h
  obtain ⟨d, hd⟩ := List.exists_mem_of_ne_nil _ hne
  obtain ⟨hd, hnow⟩ := List.mem_filter.1 hd
  obtain ⟨e, he, hfound, heff, hlast⟩ := ceilingAt?_spec hd (of_decide_eq_true hnow)
  rw [h] at hfound
  obtain rfl := Option.some.inj hfound
  exact ⟨hk.ceilings.mem_values.1 he, heff, fun i d hd hnow =>
    Instant.notBefore_iff.1 (hlast d (Table.mem_values.2 ⟨i, hd⟩) hnow)⟩

end Store
end LoanDesk
