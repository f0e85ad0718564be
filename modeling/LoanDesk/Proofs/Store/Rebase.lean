/-
# Changes over rows that move

While a transaction is open others may commit, and its changes then stand over other rows than those
that it read. What it has staged of requests and lines it holds, so these rows are as they were. If
what it sees was made of the stored rows row by row, it is made of the new ones in the same way,
provided that no row which was left as it was would be changed now (`Table.get?_overlay_bind`).

Rows of other tables are not locked. There it is enough that the transaction has staged nothing, and
`Store.Rebase.Spared` says which calls stage nothing where.
-/

import LoanDesk.Proofs.Store.Rebase.Spared

namespace LoanDesk

/-! ### Tables -/

namespace Table

variable {α : Type}

/-- Rows that are made one by one of the rows below the changes are so made of other rows below. -/
theorem get?_overlay_bind {t u : Table α} {c : Table (Option α)} {g : α → Option α}
    (h : ∀ k, (t.overlay c).get? k = (t.get? k).bind g)
    (hs : ∀ k, (c.get? k).isSome → u.get? k = t.get? k)
    (hu : ∀ k b, c.get? k = none → u.get? k = some b →
      ∃ a, t.get? k = some a ∧ (g a = some a → g b = some b)) (k : Int) :
    (u.overlay c).get? k = (u.get? k).bind g := by
  have hk := h k
  rw [get?_overlay] at hk ⊢
  cases hc : c.get? k with
  | some x =>
    rw [hc] at hk
    rw [hs k (by rw [hc]; rfl)]
    exact hk
  | none =>
    rw [hc] at hk
    dsimp only at hk ⊢
    cases hb : u.get? k with
    | none => rfl
    | some b =>
      obtain ⟨a, ha, hab⟩ := hu k b hc hb
      rw [ha] at hk
      exact (hab hk.symm).symm

/-- A table whose rows are changed is one whose rows are looked up and changed. -/
theorem get?_map_bind (t : Table α) (f : α → α) (k : Int) :
    (t.map f).get? k = (t.get? k).bind fun a => some (f a) := by
  rw [get?_map]
  cases t.get? k <;> rfl

/-- A part of a table is one whose rows are looked up and may be left out. -/
theorem get?_filter_bind (t : Table α) (p : α → Bool) (k : Int) :
    (t.filter p).get? k = (t.get? k).bind fun a => if p a then some a else none := by
  rw [get?_filter]
  cases t.get? k <;> rfl

/-- What staged changes make of one table they make of another in which the rows that were staged
stand as before. -/
theorem overlay_eq_map {t u : Table α} {c : Table (Option α)} {f : α → α}
    (h : t.overlay c = t.map f) (hs : ∀ k, (c.get? k).isSome → u.get? k = t.get? k)
    (hu : ∀ k b, c.get? k = none → u.get? k = some b →
      ∃ a, t.get? k = some a ∧ (f a = a → f b = b)) : u.overlay c = u.map f := by
  refine ext fun k => ?_
  rw [get?_map_bind]
  refine get?_overlay_bind (fun k => by rw [h, get?_map_bind]) hs (fun k b hc hb => ?_) k
  obtain ⟨a, ha, hab⟩ := hu k b hc hb
  exact ⟨a, ha, fun he => congrArg some (hab (Option.some.inj he))⟩

/-- Changes that were staged over one keyed table may be put over another. -/
theorem Keyed.rebase {key : α → Int} {t u : Table α} {c : Table (Option α)}
    (h : (t.overlay c).Keyed key) (hu : u.Keyed key) : (u.overlay c).Keyed key := by
  intro k a hk
  have hka := h k a
  rw [get?_overlay] at hk hka
  cases hc : c.get? k with
  | none =>
    rw [hc] at hk
    exact hu k a hk
  | some x =>
    rw [hc] at hk hka
    exact hka hk

end Table

/-- Every row to be stored stands under its own number. -/
def Changes.Keyed (c : Changes) : Prop := ∀ rows : Rows, rows.Keyed → (rows.overlay c).Keyed

/-- Changes that keep one set of rows under their own numbers keep every one so. -/
theorem Changes.keyed_of_overlay {r : Rows} {c : Changes} (h : (r.overlay c).Keyed) :
    c.Keyed := fun _ hk =>
  ⟨h.requests.rebase hk.requests, h.offers.rebase hk.offers, h.lines.rebase hk.lines,
    h.contracts.rebase hk.contracts, h.sheets.rebase hk.sheets, h.ceilings.rebase hk.ceilings,
    h.jobs.rebase hk.jobs⟩

/-- No changes at all keep rows under their own numbers. -/
theorem Changes.keyed_none : Changes.none.Keyed := fun _ h => h

/-! ### Rows that a call locks -/

namespace Store

variable {tx : TxId} {α β : Type}

/-- The rows that were locked are held. -/
theorem holder?_of_tryLock {s t : Store} {keys : List RowKey} (h : s.tryLock tx keys = some t)
    {key : RowKey} (hk : key ∈ keys) : t.locks.holder? key = some tx := by
  unfold tryLock at h
  split at h
  · rw [← Option.some.inj h]
    change (keys.foldl (·.take tx) s.locks).holder? key = _
    rw [Locks.holder?_foldl_take, if_pos hk]
  · cases h

/-- A step that gives an answer holds the rows that go with the answer. -/
def Grasps (tx : TxId) (keys : α → List RowKey) (m : Act α) : Prop :=
  ∀ s a t, m s = (.ok a, t) → ∀ key ∈ keys a, t.locks.holder? key = some tx

/-- What a later step holds is held in the end. -/
theorem Grasps.after {m : Act α} {f : α → Act β} {keys : β → List RowKey}
    (hf : ∀ a, Grasps tx keys (f a)) : Grasps tx keys (m >>= f) := by
  intro s b u h
  rw [bind_apply] at h
  generalize m s = x at h
  obtain ⟨r, t⟩ := x
  cases r with
  | ok a => exact hf a t b u h
  | error e => cases h

/-- A step that locks rows holds them. -/
theorem grasps_lockOr {keys : List RowKey} {e : StoreError} (a : α) :
    Grasps tx (fun _ => keys) (lockOr tx keys e >>= fun _ => pure a) := by
  intro s b u h
  rw [bind_apply, lockOr_apply] at h
  cases ht : s.tryLock tx keys with
  | none =>
    rw [ht] at h
    cases h
  | some t =>
    rw [ht] at h
    obtain rfl : t = u := congrArg Prod.snd h
    exact fun key hk => holder?_of_tryLock ht hk

/-- A request that was locked is held. -/
theorem grasps_lockRequest (id : Int) (mode : LockMode) :
    Grasps tx (fun _ => [.request id]) (act tx (.lockRequest id mode)) :=
  Grasps.after fun r => grasps_lockOr r

/-- The lines of an offer that were locked are held. -/
theorem grasps_lockLinesOfOffer (offer : Int) :
    Grasps tx (fun ls : List Line => ls.map fun l => .line l.id)
      (act tx (.lockLinesOfOffer offer)) := by
  refine Grasps.after fun ls => ?_
  have hlock : Grasps tx (fun ls : List Line => ls.map fun l => .line l.id)
      (lockOr tx (ls.map fun l => .line l.id) (.locked "offer" offer) >>= fun _ => pure ls) := by
    intro s a t h
    have ha : a = ls := by
      rw [bind_apply] at h
      generalize lockOr tx _ _ s = x at h
      obtain ⟨r, u⟩ := x
      cases r with
      | ok _ => exact (Except.ok.inj (congrArg Prod.fst h)).symm
      | error e => cases h
    rw [ha]
    exact grasps_lockOr ls s a t h
  dsimp only
  split
  · exact Grasps.after fun _ => hlock
  · exact hlock

end Store
end LoanDesk
