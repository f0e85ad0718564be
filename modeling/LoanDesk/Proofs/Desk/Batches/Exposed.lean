/-
# Requests that are exposed to a ceiling

The requests that a run may decline are known when it begins: those that are open, reach the ceiling
in force and are held by nobody, in the order of their numbers (`Store.exposed`). Every batch takes
the first of those that are left. As it closes them the next batch finds the others
(`Store.exposed_shut`). What so many batches come to is `Store.Batched`, where somebody may hold an
open line of the next one.
-/

import LoanDesk.Proofs.Desk.Expiration
import LoanDesk.Proofs.Desk.Soundness
import Mathlib.Data.List.Basic

namespace LoanDesk

/-! ### Requests that are shut one batch after another -/

namespace Rows

variable {rows : Rows} {by_ : String} {reason : CancelReason} {now : Instant}

/-- The open lines of these requests. -/
def openLinesOf (rows : Rows) (rs : List Request) : List Line :=
  rows.pendingLines fun l => (rs.map (·.id)).contains l.request

/-- No request, no open lines. -/
theorem openLinesOf_nil : rows.openLinesOf [] = [] :=
  List.filter_eq_nil_iff.2 fun _ _ h => by simp at h

/-- Lines that satisfy one of two conditions are counted one condition after the other. -/
theorem length_pendingLines_or (p q : Line → Bool) :
    (rows.pendingLines fun l => p l || q l).length =
      (rows.pendingLines p).length + (rows.pendingLines fun l => !p l && q l).length := by
  rw [List.length_eq_length_filter_add p, pendingLines_filter, pendingLines_filter]
  refine congrArg₂ (· + ·) (congrArg List.length (pendingLines_congr fun _ l _ _ => ?_))
    (congrArg List.length (pendingLines_congr fun _ l _ _ => ?_)) <;>
  · cases p l <;> cases q l <;> rfl

/-- Requests with other numbers have their lines as before. -/
theorem openLinesOf_shut {ids : List Int} {rs : List Request} (h : ∀ r ∈ rs, r.id ∉ ids) :
    (rows.shut ids by_ reason now).openLinesOf rs = rows.openLinesOf rs := by
  refine (pendingLines_cancel _ _).trans (pendingLines_congr fun _ l _ _ => ?_)
  cases hc : (rs.map (·.id)).contains l.request with
  | false => exact Bool.and_false _
  | true =>
    obtain ⟨r, hr, hid⟩ := List.mem_map.1 (List.contains_iff_mem.1 hc)
    have hnot : ids.contains l.request = false := by
      rw [← hid]
      simpa using h r hr
    rw [hnot]
    rfl

/-- The open lines of requests are those of the first and, when these are shut, those of the
others. -/
theorem length_openLinesOf_append (rs rs' : List Request) :
    (rows.openLinesOf (rs ++ rs')).length = (rows.openLinesOf rs).length +
      ((rows.shut (rs.map (·.id)) by_ reason now).openLinesOf rs').length := by
  have hshut : (rows.shut (rs.map (·.id)) by_ reason now).openLinesOf rs' = rows.pendingLines
      fun l => !(rs.map (·.id)).contains l.request && (rs'.map (·.id)).contains l.request :=
    pendingLines_cancel _ _
  rw [hshut, openLinesOf, openLinesOf, ← length_pendingLines_or]
  refine congrArg List.length (pendingLines_congr fun _ l _ _ => ?_)
  rw [List.map_append, List.contains_append]

/-- Closing no request changes nothing. -/
theorem shut_nil : rows.shut [] by_ reason now = rows := by
  have hcancel : rows.cancel (fun l => [].contains l.request) by_ reason now = rows :=
    cancel_of_pendingLines openLinesOf_nil
  have hid : rows.requests.map (fun r : Request =>
      if [].contains r.id then { r with status := .confirmed, updatedAt := now } else r) =
        rows.requests := rows.requests.map_id
  rw [shut, hcancel, setRequests, hid]

/-- Requests that are shut one after the other. -/
theorem shut_shut (ids ids' : List Int) :
    (rows.shut ids by_ reason now).shut ids' by_ reason now =
      rows.shut (ids ++ ids') by_ reason now := by
  calc (rows.shut ids by_ reason now).shut ids' by_ reason now
      = (((rows.cancel (fun l => ids.contains l.request) by_ reason now).cancel
          (fun l => ids'.contains l.request) by_ reason now).setRequests
            (fun r => ids.contains r.id) .confirmed now).setRequests
              (fun r => ids'.contains r.id) .confirmed now := rfl
    _ = rows.shut (ids ++ ids') by_ reason now := by
      rw [cancel_cancel, setRequests_setRequests, shut]
      simp only [List.contains_append]

end Rows

namespace Store

variable {s : Store} {c : Ceiling} {size : Nat}

/-- The open requests that reach the ceiling and that nobody holds. -/
def exposed (s : Store) (c : Ceiling) : List Request :=
  s.stored.claimable s.isFree fun r => c.maximumRate ≤ r.loanRate

/-- The first open line of these requests that somebody holds. -/
def heldAmong? (s : Store) (rs : List Request) : Option Line :=
  (s.rows.openLinesOf rs).find? fun l => !s.isFree (.line l.id)

/-- What is exposed depends on the rows and on the locks only. -/
theorem exposed_eq {t : Store} (hrows : t.rows = s.rows) (hfree : t.isFree = s.isFree) :
    t.exposed c = s.exposed c := by
  rw [exposed, exposed, Book.claimable, Book.claimable, hfree]
  change (t.rows.requests.values.filter _).filter _ = _
  rw [hrows]
  rfl

/-- No more requests are exposed than there are. -/
theorem length_exposed (c : Ceiling) : (s.exposed c).length ≤ s.rows.requests.size := by
  refine (List.length_filter_le _ _).trans ((List.length_filter_le _ _).trans ?_)
  exact Nat.le_of_eq (List.length_map _)

/-- What may be claimed stands in the order of its numbers. -/
theorem ascending_claimable (hk : s.rows.Keyed) (p : Request → Bool) :
    ((s.stored.claimable s.isFree p).map (·.id)).Pairwise (· < ·) :=
  List.pairwise_map.2 <| hk.requests.ascending_values.sublist <|
    List.filter_sublist.trans List.filter_sublist

/-- Exposed requests come in the order of their ids. -/
theorem ascending_exposed (hk : s.rows.Keyed) (c : Ceiling) :
    ((s.exposed c).map (·.id)).Pairwise (· < ·) := ascending_claimable hk _

/-- The first of them have other numbers than those that follow. -/
theorem exposed_apart (hk : s.rows.Keyed) (c : Ceiling) (n : Nat) :
    ∀ r ∈ (s.exposed c).drop n, r.id ∉ ((s.exposed c).take n).map (·.id) := by
  have hasc := ascending_exposed hk c
  rw [← List.take_append_drop n (s.exposed c), List.map_append, List.pairwise_append] at hasc
  intro r hr hmem
  exact Int.lt_irrefl _ (hasc.2.2 r.id hmem r.id (List.mem_map_of_mem hr))

/-- When requests are shut, the others are left. -/
theorem exposed_shut {t : Store} {ids : List Int} {by_ : String} {reason : CancelReason}
    {now : Instant} (hfree : t.isFree = s.isFree) (hrows : t.rows = s.rows.shut ids by_ reason now) :
    t.exposed c = (s.exposed c).filter fun r => !ids.contains r.id := by
  rw [exposed, exposed, Book.claimable, Book.claimable, hfree, List.filter_filter,
    List.filter_filter, List.filter_filter]
  change t.rows.requests.values.filter _ = s.rows.requests.values.filter _
  rw [hrows, Rows.shut, Rows.setRequests, Table.values_map]
  refine filter_map_of_kept (fun r => ?_) (fun r hr => ?_) _
  · cases ids.contains r.id with
    | true => exact Bool.and_false _
    | false => rfl
  · obtain ⟨hr, -⟩ := Bool.and_eq_true_iff.1 (Bool.and_eq_true_iff.1 hr).1
    exact if_neg (by simpa using hr)

/-- What is exposed when the first have been shut. -/
theorem exposed_drop (hk : s.rows.Keyed) {t : Store} {n : Nat} {by_ : String}
    {reason : CancelReason} {now : Instant} (hfree : t.isFree = s.isFree)
    (hrows : t.rows = s.rows.shut (((s.exposed c).take n).map (·.id)) by_ reason now) :
    t.exposed c = (s.exposed c).drop n := by
  let left : Request → Bool := fun r => !(((s.exposed c).take n).map (·.id)).contains r.id
  have hfirst : ((s.exposed c).take n).filter left = [] := by
    refine List.filter_eq_nil_iff.2 fun r hr => ?_
    have hc := List.contains_iff_mem.2 (List.mem_map_of_mem (f := Request.id) hr)
    change ¬(!_) = true
    rw [hc]
    exact Bool.false_ne_true
  have hothers : ((s.exposed c).drop n).filter left = (s.exposed c).drop n :=
    List.filter_eq_self.2 fun r hr => by simpa [left] using exposed_apart hk c n r hr
  calc t.exposed c
      = (s.exposed c).filter left := exposed_shut hfree hrows
    _ = ((s.exposed c).take n).filter left ++ ((s.exposed c).drop n).filter left := by
        rw [← List.filter_append, List.take_append_drop]
    _ = (s.exposed c).drop n := by rw [hfirst, hothers, List.nil_append]

/-! ### Batches -/

/-- One batch of the requests that are exposed. -/
def batch (s : Store) (c : Ceiling) (size j : Nat) : List Request :=
  ((s.exposed c).drop (j * size)).take size

/-- **What `k` batches come to.**  They go through, and with them all requests that are exposed are
closed, or somebody holds an open line of the next batch. -/
structure Batched (s : Store) (c : Ceiling) (size : Nat) (actor : String) (now : Instant) (k : Nat)
    (d : Jobs.Declined) (rows : Rows) : Prop where
  requests : d.requests = (s.exposed c).take (k * size)
  free : ∀ j < k, s.heldAmong? (s.batch c size j) = none
  ended : d.error = none ∧ (s.exposed c).length ≤ k * size ∨
    ∃ l, s.heldAmong? (s.batch c size k) = some l ∧ d.error = some (.locked "offer interest" l.id)
  cancelled : d.cancelled = (s.rows.openLinesOf d.requests).length
  rows : rows = s.rows.shut (d.requests.map (·.id)) actor .highLoanRate now

/-- The first batch is the head of the exposed requests. -/
theorem batch_zero : s.batch c size 0 = (s.exposed c).take size := by
  rw [batch, Nat.zero_mul, List.drop_zero]

/-- No batch at all. -/
theorem batched_zero {actor : String} {now : Instant} {e : Option StoreError}
    (h : e = none ∧ s.exposed c = [] ∨ ∃ l, s.heldAmong? ((s.exposed c).take size) = some l ∧
      e = some (.locked "offer interest" l.id)) :
    s.Batched c size actor now 0 ⟨[], 0, e⟩ s.rows where
  requests := by rw [Nat.zero_mul, List.take_zero]
  free := nofun
  ended := by
    rw [batch_zero]
    exact h.imp_left fun ⟨he, hnil⟩ => ⟨he, by rw [hnil]; exact Nat.zero_le _⟩
  cancelled := by rw [Rows.openLinesOf_nil]; rfl
  rows := Rows.shut_nil.symm

/-- What batches come to is a matter of the rows and of who holds them. -/
theorem Batched.of_eq {t : Store} {actor : String} {now : Instant} {k : Nat} {d : Jobs.Declined}
    {rows : Rows} (hrows : t.rows = s.rows) (hfree : t.isFree = s.isFree)
    (h : t.Batched c size actor now k d rows) : s.Batched c size actor now k d rows := by
  have hexposed : t.exposed c = s.exposed c := exposed_eq hrows hfree
  have hheld : t.heldAmong? = s.heldAmong? := by
    funext rs
    rw [heldAmong?, heldAmong?, hrows, hfree]
  have hbatch : t.batch c size = s.batch c size := by
    funext j
    rw [batch, batch, hexposed]
  obtain ⟨hrequests, hthrough, hended, hcancelled, hshut⟩ := h
  rw [hexposed] at hrequests
  rw [hexposed, hheld, hbatch] at hended
  rw [hrows] at hcancelled hshut
  exact ⟨hrequests, fun j hj => by rw [← hheld, ← hbatch, hthrough j hj], hended, hcancelled, hshut⟩

/-- When one batch is closed, the others are those that are left. -/
theorem batch_succ {t : Store} (h : t.exposed c = (s.exposed c).drop size) (j : Nat) :
    t.batch c size j = s.batch c size (j + 1) := by
  rw [batch, batch, h, List.drop_drop, Nat.succ_mul, Nat.add_comm]

/-- One batch, and what others come to after it. -/
theorem Batched.cons (hk : s.rows.Keyed) {t : Store} {actor : String} {now : Instant} {k : Nat}
    {d : Jobs.Declined} {rows : Rows} (hfree : t.isFree = s.isFree)
    (hfirst : s.heldAmong? ((s.exposed c).take size) = none)
    (hrows : t.rows = s.rows.shut (((s.exposed c).take size).map (·.id)) actor .highLoanRate now)
    (h : t.Batched c size actor now k d rows) :
    s.Batched c size actor now (k + 1) ⟨(s.exposed c).take size ++ d.requests,
      (s.rows.openLinesOf ((s.exposed c).take size)).length + d.cancelled, d.error⟩ rows := by
  have hleft : t.exposed c = (s.exposed c).drop size := exposed_drop hk hfree hrows
  have hheld (j : Nat) : t.heldAmong? (t.batch c size j) = s.heldAmong? (s.batch c size (j + 1)) := by
    have hlines : t.rows.openLinesOf (t.batch c size j) = s.rows.openLinesOf (t.batch c size j) := by
      rw [hrows]
      refine Rows.openLinesOf_shut fun r hr => exposed_apart hk c size r ?_
      rw [← hleft]
      exact List.mem_of_mem_drop (List.mem_of_mem_take hr)
    rw [heldAmong?, heldAmong?, hlines, hfree, batch_succ hleft]
  refine ⟨?_, fun j hj => ?_, ?_, ?_, ?_⟩
  · have hsum : (k + 1) * size = size + k * size := by rw [Nat.succ_mul, Nat.add_comm]
    rw [hsum, List.take_add, ← hleft, ← h.requests]
  · cases j with
    | zero => rwa [batch_zero]
    | succ j => rw [← hheld, h.free j (Nat.lt_of_succ_lt_succ hj)]
  · refine h.ended.imp (fun ⟨he, hlen⟩ => ⟨he, ?_⟩) fun ⟨l, hl, he⟩ => ⟨l, by rwa [← hheld], he⟩
    rw [hleft, List.length_drop] at hlen
    rw [Nat.succ_mul]
    omega
  · rw [h.cancelled, hrows]
    exact (Rows.length_openLinesOf_append _ _).symm
  · rw [h.rows, hrows, Rows.shut_shut, ← List.map_append]

end Store

end LoanDesk
