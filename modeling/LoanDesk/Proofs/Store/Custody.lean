/-
# Rows in custody

Since every call locks the requests and lines that it stages, no two open transactions have staged the
same one (`Store.Reached.guards`).

Locks are held to the end of a transaction. From the moment on at which it holds a row no commit of
anybody else changes that row, since only who holds it can have staged it (`Does.row?_eq`). What the
transaction reads of it then is what is stored when it commits, and so no change is lost between the
two (`Reached.no_lost_update`).
-/

import LoanDesk.Proofs.Store.Custody.Guards

namespace LoanDesk
namespace Store

/-! ### Stores that come about -/

/-- A store in which a transaction begins comes about. -/
theorem Reached.begin {s : Store} (h : s.Reached) : s.begin.2.Reached := by
  refine h.step (c := .begin) (x := .ok s.begin.1) (fun i d hc => ?_) ⟨rfl, rfl⟩
  cases hc

/-- A store in which an open transaction makes a call comes about. -/
theorem Reached.call {s : Store} (h : s.Reached) {tx : TxId} (ho : s.IsOpen tx) (c : Call) :
    (s.perform tx c).2.Reached := by
  refine h.step (c := .call tx c) (x := (s.perform tx c).1) (fun i d hc => ?_) rfl
  cases hc
  exact ho

/-- A store in which a transaction commits comes about. -/
theorem Reached.commit {s : Store} (h : s.Reached) (tx : TxId) : (s.commit tx).Reached := by
  refine h.step (c := .commit tx) (x := .ok ()) (fun i d hc => ?_) ⟨rfl, rfl⟩
  cases hc

/-- What the end of a transaction leaves to another. -/
theorem Guards.drop {i tx : TxId} {s : Store} (h : Guards i [] s) : Guards i [] (s.drop tx) := by
  by_cases hi : i = tx
  · refine guards_of_changes ?_
    rw [changes, Store.drop, Table.get?_erase, if_pos hi.symm]
    rfl
  · refine h.of_eq ?_ fun key hkey => ?_
    · rw [Store.drop, Table.get?_erase, if_neg (Ne.symm hi)]
    · rw [Store.drop, Locks.holder?_release, hkey]
      simpa using hi

/-- A command of anybody leaves every transaction with the rows that it has staged. -/
theorem Does.guards {s t : Store} (h : ∀ tx, Guards tx [] s) {c : Command} {x : c.Answer}
    (hs : s.Does c x t) (tx : TxId) : Guards tx [] t := by
  cases c with
  | begin =>
    obtain ⟨-, rfl⟩ := hs
    by_cases hi : s.lastTx + 1 = tx
    · refine guards_of_changes ?_
      rw [changes, Store.begin, Table.get?_insert, if_pos hi]
      rfl
    · refine (h tx).of_eq ?_ fun _ hkey => hkey
      rw [Store.begin, Table.get?_insert, if_neg hi]
  | call i c =>
    obtain rfl : t = (s.perform i c).2 := congrArg Prod.snd hs
    by_cases hi : tx = i
    · subst hi
      exact guarding_act c s (h tx)
    · have hf := perform_frame s i c
      exact (h tx).of_eq (hf.others tx hi) fun key hkey => (hf.locks key tx hi).2 hkey
  | commit i =>
    obtain ⟨-, rfl⟩ := hs
    exact Guards.drop (s := { s with rows := s.view i }) ⟨(h tx).staged, (h tx).held⟩
  | drop i =>
    obtain rfl : t = s.drop i := hs
    exact (h tx).drop
  | deliver e =>
    obtain rfl : t = s := hs
    exact h tx

/-- **Every transaction holds the requests and lines that it has staged.** -/
theorem Reached.guards {s : Store} (h : s.Reached) (tx : TxId) : Guards tx [] s := by
  induction h generalizing tx with
  | empty => exact guards_of_changes (by simp [changes, Store.empty])
  | step h hc hs ih => exact hs.guards ih tx

/-- **A row does not change under its holder**, whoever makes a step, and it stays held until its
holder ends. -/
theorem Does.row?_eq {s t : Store} (h : ∀ tx, Guards tx [] s) {tx : TxId} {key : RowKey}
    (hk : s.locks.holder? key = some tx) {c : Command} {x : c.Answer} (hs : s.Does c x t)
    (he : c ≠ .commit tx ∧ c ≠ .drop tx) :
    t.locks.holder? key = some tx ∧ t.rows.row? key = s.rows.row? key := by
  have hrelease : ∀ i, i ≠ tx → (s.locks.release i).holder? key = some tx := by
    intro i hi
    rw [Locks.holder?_release, hk]
    simpa using Ne.symm hi
  cases c with
  | begin =>
    obtain ⟨-, rfl⟩ := hs
    exact ⟨hk, rfl⟩
  | call i c =>
    obtain rfl : t = (s.perform i c).2 := congrArg Prod.snd hs
    have hf := perform_frame s i c
    rw [hf.rows]
    by_cases hi : tx = i
    · subst hi
      exact ⟨hf.held key hk, rfl⟩
    · exact ⟨(hf.locks key tx hi).2 hk, rfl⟩
  | commit i =>
    obtain ⟨-, rfl⟩ := hs
    have hi : i ≠ tx := fun hi => he.1 (hi ▸ rfl)
    refine ⟨hrelease i hi, ?_⟩
    -- had it staged the row it would hold it as well
    have hnone : (s.changes i).row? key = none := by
      cases hstaged : (s.changes i).row? key with
      | none => rfl
      | some r =>
        have hheld := (h i).staged key (by rw [hstaged]; rfl)
        rw [hk] at hheld
        exact absurd (Option.some.inj hheld).symm hi
    change (s.rows.overlay (s.changes i)).row? key = _
    rw [Rows.row?_overlay, hnone]
    rfl
  | drop i =>
    obtain rfl : t = s.drop i := hs
    exact ⟨hrelease i fun hi => he.2 (hi ▸ rfl), rfl⟩
  | deliver e =>
    obtain rfl : t = s := hs
    exact ⟨hk, rfl⟩

/-- Steps of anybody, one after another, none of which ends a certain transaction. -/
inductive Meanwhile (tx : TxId) : Store → Store → Prop
  | refl (s : Store) : Meanwhile tx s s
  | step {s t u : Store} {c : Command} {x : c.Answer} (h : Meanwhile tx s t)
    (hc : ∀ i d, c = .call i d → t.IsOpen i) (he : c ≠ .commit tx ∧ c ≠ .drop tx)
    (hs : t.Does c x u) : Meanwhile tx s u

/-- A call of an open transaction may be made meanwhile. -/
theorem Meanwhile.call {tx : TxId} {s t : Store} (h : Meanwhile tx s t) {i : TxId}
    (hi : t.IsOpen i) (c : Call) : Meanwhile tx s (t.perform i c).2 := by
  refine h.step (c := .call i c) (x := (t.perform i c).1) (fun j d hc => ?_) ⟨nofun, nofun⟩ rfl
  cases hc
  exact hi

/-- Other transactions may commit meanwhile. -/
theorem Meanwhile.commit {tx : TxId} {s t : Store} (h : Meanwhile tx s t) {i : TxId} (hi : i ≠ tx) :
    Meanwhile tx s (t.commit i) := by
  refine h.step (c := .commit i) (x := .ok ()) (fun j d hc => ?_) ⟨fun he => ?_, nofun⟩ ⟨rfl, rfl⟩
  · cases hc
  · exact hi (Command.commit.inj he)

/-- What has come about meanwhile comes about. -/
theorem Meanwhile.reached {tx : TxId} {s t : Store} (h : Meanwhile tx s t) (hr : s.Reached) :
    t.Reached := by
  induction h with
  | refl => exact hr
  | step h hc he hs ih => exact ih.step hc hs

/-- A row that is held stays held and as it was, whatever happens meanwhile. -/
theorem Meanwhile.row?_eq {tx : TxId} {s t : Store} (h : Meanwhile tx s t) (hr : s.Reached)
    {key : RowKey} (hk : s.locks.holder? key = some tx) :
    t.locks.holder? key = some tx ∧ t.rows.row? key = s.rows.row? key := by
  induction h with
  | refl => exact ⟨hk, rfl⟩
  | step h hc he hs ih =>
    obtain ⟨hheld, hrow⟩ := ih
    obtain ⟨hheld', hrow'⟩ := hs.row?_eq (h.reached hr).guards hheld he
    exact ⟨hheld', hrow'.trans hrow⟩

/-- **No change is lost.**  However many transactions make steps in whatever order, each of them
holds the requests and lines that it has staged, so no two have staged the same one. While one holds
a row nothing that is committed changes that row: what the transaction sees of it, up to its own
changes, is what was stored when it came to hold it, and its commit changes just that. -/
theorem Reached.no_lost_update {s : Store} (h : s.Reached) :
    (∀ tx key, s.IsOpen tx → ((s.changes tx).row? key).isSome →
      s.locks.holder? key = some tx) ∧
    (∀ tx tx' key, s.IsOpen tx → s.IsOpen tx' → ((s.changes tx).row? key).isSome →
      ((s.changes tx').row? key).isSome → tx = tx') ∧
    ∀ tx key, s.locks.holder? key = some tx → ∀ t, s.Meanwhile tx t →
      t.IsOpen tx ∧ t.locks.holder? key = some tx ∧ t.rows.row? key = s.rows.row? key ∧
      (∀ tx', tx' ≠ tx → (t.commit tx').rows.row? key = t.rows.row? key) ∧
      (t.view tx).row? key = ((t.changes tx).row? key).getD (s.rows.row? key) ∧
      (t.commit tx).rows.row? key = ((t.changes tx).row? key).getD (s.rows.row? key) := by
  refine ⟨fun tx key _ => (h.guards tx).staged key, fun tx tx' key _ _ hs hs' => ?_, ?_⟩
  · have hheld := (h.guards tx).staged key hs
    rw [(h.guards tx').staged key hs'] at hheld
    exact (Option.some.inj hheld).symm
  · intro tx key hk t ht
    have hreached := ht.reached h
    obtain ⟨hheld, hrow⟩ := ht.row?_eq h hk
    have hview : (t.view tx).row? key = ((t.changes tx).row? key).getD (s.rows.row? key) := by
      rw [view, Rows.row?_overlay, hrow]
    refine ⟨hreached.orderly.held key tx hheld, hheld, hrow, fun tx' hne => ?_, hview, hview⟩
    exact (((Meanwhile.refl t).commit hne).row?_eq hreached hheld).2

end Store

namespace Story

/-- A request that investor 7 asks for. -/
def wish : RequestDraft where
  symbol := 1
  investor := 7
  account := "A1"
  kind := .flexible
  terms := .underlying .zero .one

/-- A point in time. -/
def noon : Instant := { Instant.epoch with second := 1700000000 }

/-- Request 1 is stored, and two transactions are open. -/
def stored : Store :=
  ((Store.empty.begin.2.perform 1 (.createRequest wish noon)).2.commit 1).begin.2.begin.2

/-- Transaction 2 has locked request 1. -/
def locked : Store := (stored.perform 2 (.lockRequest 1 .noWait)).2

/-- Transaction 3 tries to lock it too, and asks for another request. -/
def tried : Store :=
  ((locked.perform 3 (.lockRequest 1 .noWait)).2.perform 3 (.createRequest wish noon)).2

/-- Transaction 2 confirms its request, and transaction 3 commits. -/
def crossed : Store := (tried.perform 2 (.setRequestStatus 1 .confirmed noon)).2.commit 3

/-- The locked store comes about. -/
theorem reached_locked : locked.Reached := by
  have hfirst : Store.empty.begin.2.IsOpen 1 := by decide +kernel
  have hsecond : stored.IsOpen 2 := by decide +kernel
  have hcreated := Store.Reached.empty.begin.call hfirst (.createRequest wish noon)
  exact (hcreated.commit 1).begin.begin.call hsecond (.lockRequest 1 .noWait)

/-- Transaction 3 has made its steps while transaction 2 was open. -/
theorem meanwhile_crossed : locked.Meanwhile 2 crossed := by
  have hlocked : locked.IsOpen 3 := by decide +kernel
  have hrefused : (locked.perform 3 (.lockRequest 1 .noWait)).2.IsOpen 3 := by decide +kernel
  have htried : tried.IsOpen 2 := by decide +kernel
  have hasked : locked.Meanwhile 2 tried :=
    ((Store.Meanwhile.refl locked).call hlocked (.lockRequest 1 .noWait)).call hrefused
      (.createRequest wish noon)
  exact (hasked.call htried (.setRequestStatus 1 .confirmed noon)).commit (by decide)

/-- Transaction 3 has stored request 2 meanwhile, but request 1 is what transaction 2 has locked. -/
theorem no_lost_update_crossed :
    locked.locks.holder? (.request 1) = some 2 ∧ (crossed.rows.requests.get? 2).isSome ∧
      ((crossed.changes 2).row? (.request 1)).isSome ∧
      crossed.rows.row? (.request 1) = locked.rows.row? (.request 1) ∧
      crossed.locks.holder? (.request 1) = some 2 := by
  have hheld : locked.locks.holder? (.request 1) = some 2 := by decide +kernel
  obtain ⟨-, hheld', hrow, -⟩ :=
    (Store.Reached.no_lost_update reached_locked).2.2 2 (.request 1) hheld crossed meanwhile_crossed
  exact ⟨hheld, by decide +kernel, by decide +kernel, hrow, hheld'⟩

end Story
end LoanDesk
