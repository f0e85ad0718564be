/-
# Rows written one after another

A statement over many rows writes one row after another (`Call.targets`), and where it meets a row
that somebody else holds, the rows before it stay staged and locked: its *residue*
(`Store.leaves_writeEach`). A deletion that finds a line of its request locked keeps the request: its
*grip*.
-/

import LoanDesk.Proofs.Store.Moves

namespace LoanDesk

/-- A request or a line is stored under its number. -/
def Rows.put (rows : Rows) : Request ⊕ Line → Rows
  | .inl r => rows.putRequest r
  | .inr l => rows.putLine l

/-- A request or a line is to be stored under its number. -/
def Changes.put (c : Changes) : Request ⊕ Line → Changes
  | .inl r => { c with requests := c.requests.insert r.id (some r) }
  | .inr l => { c with lines := c.lines.insert l.id (some l) }

/-- A row that is staged is stored in what is seen. -/
theorem Rows.overlay_put (rows : Rows) (c : Changes) (x : Request ⊕ Line) :
    rows.overlay (c.put x) = (rows.overlay c).put x := by
  cases x with
  | inl r => simp [Rows.overlay, Changes.put, Rows.put, Rows.putRequest, Table.overlay_insert_some]
  | inr l => simp [Rows.overlay, Changes.put, Rows.put, Rows.putLine, Table.overlay_insert_some]

/-- Rows that are staged one after another are stored one after another in what is seen. -/
theorem Rows.overlay_foldl_put (rows : Rows) (xs : List (Request ⊕ Line)) (c : Changes) :
    rows.overlay (xs.foldl Changes.put c) = xs.foldl Rows.put (rows.overlay c) := by
  induction xs generalizing c with
  | nil => rfl
  | cons x xs ih => rw [List.foldl_cons, List.foldl_cons, ih, Rows.overlay_put]

namespace Call

/-- The rows that a statement over many rows writes, in their order and as it writes them. -/
def targets (rows : Rows) : Call → List (Request ⊕ Line)
  | .setRequestStatuses ids status now =>
    ((rows.requests.pick ids).map fun r => { r with status, updatedAt := now }).map .inl
  | .setLineStatuses ids status now =>
    ((rows.lines.pick ids).map fun l => l.withStatus status now).map .inr
  | .cancelByOffer offer by_ reason now => cancelled (·.offer == offer) by_ reason now
  | .cancelExpired offers by_ now => cancelled (fun l => offers.contains l.offer) by_ .expired now
  | .cancelLines ids by_ reason now => cancelled (fun l => ids.contains l.id) by_ reason now
  | .cancelByRequests ids by_ reason now =>
    cancelled (fun l => ids.contains l.request) by_ reason now
  | _ => []
where
  /-- The pending lines that are selected, as they are once they are cancelled. -/
  cancelled (p : Line → Bool) (by_ : String) (reason : CancelReason) (now : Instant) :
      List (Request ⊕ Line) :=
    ((rows.lines.values.filter fun l => l.isPending && p l).map
      fun l => l.cancelled by_ reason now).map .inr

end Call

namespace Store

/-- What a statement over many rows has written when it meets the first row that others hold. -/
def residue (s : Store) (tx : TxId) (c : Call) : List (Request ⊕ Line) :=
  (c.targets (s.view tx)).takeWhile fun x => s.locks.isFree tx (.of x)

/-- The rows that a failed call has locked. -/
def grip (s : Store) (tx : TxId) : Call → List RowKey
  | .deleteRequest id =>
    if ((s.view tx).requests.get? id).isSome && s.locks.isFree tx (.request id) then [.request id]
    else []
  | c => (s.residue tx c).map .of

/-- The transaction has staged these rows and locked those. -/
structure Leaves (tx : TxId) (xs : List (Request ⊕ Line)) (keys : List RowKey) (s t : Store) :
    Prop where
  changes : t.changes tx = xs.foldl Changes.put (s.changes tx)
  locks : ∀ key, t.locks.holder? key = if key ∈ keys then some tx else s.locks.holder? key

/-- Where no row is written none is staged, and none locked. -/
theorem Leaves.refl (tx : TxId) (s : Store) : Leaves tx [] [] s s := ⟨rfl, fun _ => rfl⟩

/-- A request or a line is locked and stored. -/
def write (tx : TxId) : Request ⊕ Line → Act Unit
  | .inl r => writeRequest tx r
  | .inr l => writeLine tx l

variable {tx : TxId} {s t : Store}

/-- A row that is free is written, and the others are free as before. -/
theorem write_of_free {x : Request ⊕ Line} (h : s.locks.isFree tx (.of x) = true) :
    ∃ t, write tx x s = (.ok (), t) ∧ t.changes tx = (s.changes tx).put x ∧
      t.locks = s.locks.take tx (.of x) ∧ t.locks.isFree tx = s.locks.isFree tx := by
  have hfree : ([RowKey.of x].foldl (·.take tx) s.locks).isFree tx = s.locks.isFree tx :=
    isFree_foldl_take (by simpa using h)
  have hlock : s.tryLock tx [.of x] = some { s with locks := s.locks.take tx (.of x) } := by
    rw [tryLock, if_pos (by simpa using h)]
    rfl
  refine ⟨{ s with locks := s.locks.take tx (.of x) }.stage tx (·.put x), ?_,
    changes_stage _ _ _, rfl, hfree⟩
  cases x with
  | inl r =>
    change (lockOr tx [.of (.inl r)] _ >>= _) s = _
    rw [bind_apply, lockOr_apply, hlock]
    rfl
  | inr l =>
    change (lockOr tx [.of (.inr l)] _ >>= _) s = _
    rw [bind_apply, lockOr_apply, hlock]
    rfl

/-- A row that others hold is not written, and nothing is changed. -/
theorem write_of_busy {x : Request ⊕ Line} (h : s.locks.isFree tx (.of x) = false) :
    ∃ e, write tx x s = (.error e, s) := by
  have hlock : s.tryLock tx [.of x] = none := by
    rw [tryLock, if_neg (by simp [h])]
  cases x with
  | inl r =>
    refine ⟨.locked "request" r.id, ?_⟩
    change (lockOr tx [.of (.inl r)] _ >>= _) s = _
    rw [bind_apply, lockOr_apply, hlock]
  | inr l =>
    refine ⟨.locked "offer interest" l.id, ?_⟩
    change (lockOr tx [.of (.inr l)] _ >>= _) s = _
    rw [bind_apply, lockOr_apply, hlock]

/-- **Rows that are written one after another are staged up to the first that others hold**, and
just these are locked. The step fails if and only if there is such a row. -/
theorem leaves_writeEach (tx : TxId) (xs : List (Request ⊕ Line)) (s : Store) :
    Leaves tx (xs.takeWhile fun x => s.locks.isFree tx (.of x))
        ((xs.takeWhile fun x => s.locks.isFree tx (.of x)).map .of) s (writeEach (write tx) xs s).2 ∧
      ((xs.all fun x => s.locks.isFree tx (.of x)) = true →
        (writeEach (write tx) xs s).1 = .ok ()) := by
  induction xs generalizing s with
  | nil => exact ⟨.refl tx s, fun _ => rfl⟩
  | cons x xs ih =>
    rw [writeEach, bind_apply]
    cases hx : s.locks.isFree tx (.of x) with
    | false =>
      obtain ⟨e, he⟩ := write_of_busy hx
      rw [he, List.takeWhile_cons_of_neg (by simp [hx])]
      refine ⟨.refl tx s, fun hall => ?_⟩
      rw [List.all_cons, hx] at hall
      cases hall
    | true =>
      obtain ⟨t, ht, hchanges, hlocks, hfree⟩ := write_of_free hx
      obtain ⟨hleft, hok⟩ := ih t
      rw [hfree] at hleft hok
      rw [ht, List.takeWhile_cons_of_pos (by simp [hx])]
      refine ⟨⟨?_, fun key => ?_⟩, fun hall => hok ?_⟩
      · rw [List.foldl_cons, ← hchanges]
        exact hleft.changes
      · rw [hleft.locks, hlocks, Locks.holder?_take, List.map_cons]
        by_cases hmem : key ∈ (xs.takeWhile fun x => s.locks.isFree tx (.of x)).map RowKey.of
        · rw [if_pos hmem, if_pos (List.mem_cons_of_mem _ hmem)]
        · rw [if_neg hmem]
          simp only [List.mem_cons, hmem, or_false, eq_comm (a := key)]
      · rw [List.all_cons, hx] at hall
        exact hall

/-- Rows may be made before they are written, or each just then. -/
theorem writeEach_map {α β : Type} (write : β → Act Unit) (f : α → β) :
    ∀ as : List α, writeEach write (as.map f) = writeEach (fun a => write (f a)) as
  | [] => rfl
  | a :: as => by
    rw [List.map_cons, writeEach, writeEach, writeEach_map write f as]

/-- Where not all elements satisfy a condition, there is a first that does not. -/
theorem takeWhile_append_cons {α : Type} {p : α → Bool} : ∀ {as : List α}, ¬as.all p = true →
    ∃ a rest, as = as.takeWhile p ++ a :: rest ∧ p a = false
  | [], h => absurd rfl h
  | a :: as, h => by
    cases ha : p a with
    | false => exact ⟨a, as, by simp [ha], ha⟩
    | true =>
      rw [List.all_cons, ha, Bool.true_and] at h
      obtain ⟨b, rest, heq, hb⟩ := takeWhile_append_cons h
      exact ⟨b, rest, by rw [List.takeWhile_cons_of_pos ha, List.cons_append, ← heq], hb⟩

/-- What holds of a call that fails: it leaves its residue and keeps its grip. It leaves something
only where a row that it was to write is in the hands of others, and beyond that it keeps something
only where a line of the request that it was to delete is. -/
structure Aftermath (tx : TxId) (s : Store) (c : Call) (t : Store) : Prop where
  leaves : Leaves tx (s.residue tx c) (s.grip tx c) s t
  written : s.residue tx c ≠ [] → ∃ x rest, c.targets (s.view tx) = s.residue tx c ++ x :: rest ∧
    s.locks.isFree tx (.of x) = false
  gripped : s.grip tx c ≠ [] → s.residue tx c ≠ [] ∨ ∃ id, c = .deleteRequest id ∧
    ∃ l ∈ (s.view tx).lines.values, l.request = id ∧ s.locks.isFree tx (.line l.id) = false

end Store
end LoanDesk
