/-
# What transactions see of each other

A transaction sees the stored rows with its own changes over them, so others show in what it sees by
their commits only. `Beside i s t` says that others made steps from `s` to `t`, none of which was a
commit; then `i` sees the same rows, and every read answers it the same, but for what the locks of
the others do to the reads that take locks (`Undisturbed`).

| read | while others make steps but commit none |
| --- | --- |
| plain | the same answer |
| locking | the same answer, or one of the two is the refusal |
| claim | the same candidates, less those that others hold |

A commit shows at once and as a whole. Row by row and in all seven tables, what another transaction
sees is then what the one that committed saw, where it has not staged the row itself
(`get?_view_commit`). The end of a transaction without a commit shows in the locks alone.
-/

import LoanDesk.Proofs.Store.Isolation.Reads

namespace LoanDesk

/-! ### Tables by name -/

/-- The seven tables. -/
inductive TableName where
  | requests
  | offers
  | lines
  | contracts
  | sheets
  | ceilings
  | jobs
  deriving DecidableEq

/-- What stands in a table. -/
abbrev TableName.Row : TableName → Type
  | requests => Request
  | offers => Offer
  | lines => Line
  | contracts => Contract
  | sheets => Sheet
  | ceilings => Ceiling
  | jobs => JobRecord

/-- The table of a name. -/
def Tables.get {F : Type → Type} (t : Tables F) : (n : TableName) → F n.Row
  | .requests => t.requests
  | .offers => t.offers
  | .lines => t.lines
  | .contracts => t.contracts
  | .sheets => t.sheets
  | .ceilings => t.ceilings
  | .jobs => t.jobs

/-- Changes are put over the rows table by table. -/
theorem Rows.get_overlay (rows : Rows) (c : Changes) (n : TableName) :
    (rows.overlay c).get n = (rows.get n).overlay (c.get n) := by
  cases n <;> rfl

/-! ### Steps of others -/

namespace Store

variable {s t : Store} {i j : TxId}

/-- The others do not show: what the transaction `i` sees is the same, and so are its reads, but for
the rows that others hold. -/
structure Undisturbed (i : TxId) (s t : Store) : Prop where
  view : t.view i = s.view i
  plain : ∀ c, c.IsPlain → (t.perform i c).1 = (s.perform i c).1
  locking : ∀ c e, c.refusal? = some e → ∃ found, s.Locking i c e found ∧ t.Locking i c e found
  byRate : ∀ rate limit, ∀ u ∈ [s, t], (u.perform i (.claimAboveRate rate limit)).1 =
    .ok (((s.book i).claimable (u.locks.isFree i) fun r => rate ≤ r.loanRate).take limit.toNat)
  bySymbol : ∀ symbol, ∀ u ∈ [s, t], (u.perform i (.claimBySymbol symbol)).1 =
    .ok ((s.book i).claimable (u.locks.isFree i) fun r => r.symbol == symbol)

/-- What is seen does not change on the way. -/
theorem view_of_mem {u : Store} (h : t.view i = s.view i) (hu : u ∈ [s, t]) :
    u.view i = s.view i := by
  rcases List.mem_cons.1 hu with rfl | hu
  · rfl
  · rw [List.mem_singleton.1 hu, h]

/-- Where the same is seen the others do not show. -/
theorem undisturbed_of_view (h : t.view i = s.view i) : Undisturbed i s t where
  view := h
  plain c hc := plain_eq h hc
  locking c e hc := locking_eq h.symm hc
  byRate rate limit u hu := by
    refine (claim_fst u i (fun r => rate ≤ r.loanRate) (some limit)).trans ?_
    rw [upTo, Book.claimable, Book.claimable, book, book, view_of_mem h hu]
  bySymbol symbol u hu := by
    refine (claim_fst u i (fun r => r.symbol == symbol) none).trans ?_
    rw [upTo, Book.claimable, Book.claimable, book, book, view_of_mem h hu]

/-- One step of others that is not a commit. -/
theorem Does.view_eq (h : s.Orderly) {c : Command} {x : c.Answer} (hf : c.Foreign [i])
    (hc : ∀ j, c ≠ .commit j) (hs : s.Does c x t) : t.view i = s.view i := by
  have hview (hrows : t.rows = s.rows) (hopened : t.changes i = s.changes i) :
      t.view i = s.view i := by rw [view, view, hrows, hopened]
  cases c with
  | begin =>
    obtain ⟨-, rfl⟩ := hs
    refine hview rfl ?_
    rw [changes, begin, Table.get?_insert]
    split
    · rename_i hi
      -- the number is new, so nothing was staged under it
      have hnew : s.opened.get? i = none := by
        rw [← Option.not_isSome_iff_eq_none]
        intro ho
        exact absurd (h.numbered i ho) (Int.not_le.2 (hi ▸ Int.lt_succ s.lastTx))
      rw [changes, hnew]
      rfl
    · rfl
  | call tx c =>
    obtain rfl : t = (s.perform tx c).2 := congrArg Prod.snd hs
    have hframe := perform_frame s tx c
    have hne : i ≠ tx := fun he => hf (List.mem_singleton.2 he.symm)
    exact hview hframe.rows (by rw [changes, changes, hframe.others i hne])
  | commit tx => exact absurd rfl (hc tx)
  | drop tx =>
    obtain rfl : t = s.drop tx := hs
    have hne : tx ≠ i := fun he => hf (List.mem_singleton.2 he)
    exact hview rfl (by rw [changes, changes, drop, Table.get?_erase, if_neg hne])
  | deliver e =>
    obtain rfl : t = s := hs
    rfl

/-- Steps of others, one after another, none of which is a commit. -/
inductive Beside (i : TxId) : Store → Store → Prop
  | refl (s : Store) : Beside i s s
  | step {s t u : Store} {c : Command} {x : c.Answer} (h : Beside i s t)
    (ho : ∀ j d, c = .call j d → t.IsOpen j) (hf : c.Foreign [i]) (hc : ∀ j, c ≠ .commit j)
    (hs : t.Does c x u) : Beside i s u

/-- Another transaction may make a call beside. -/
theorem Beside.call (h : s.Beside i t) (ho : t.IsOpen j) (hj : j ≠ i) (c : Call) :
    s.Beside i (t.perform j c).2 := by
  refine h.step (c := .call j c) (x := (t.perform j c).1) (fun k d hc => ?_) (fun hm => ?_) nofun
    rfl
  · cases hc
    exact ho
  · exact hj (List.mem_singleton.1 hm)

/-- What comes about beside a transaction comes about. -/
theorem Beside.reached (h : s.Beside i t) (hs : s.Reached) : t.Reached := by
  induction h with
  | refl => exact hs
  | step h ho hf hc hd ih => exact ih.step ho hd

/-- What a transaction sees stays as it is while others make steps beside it. -/
theorem Beside.view_eq (h : s.Beside i t) (hs : s.Reached) : t.view i = s.view i := by
  induction h with
  | refl => rfl
  | step h ho hf hc hd ih => exact (hd.view_eq (h.reached hs).orderly hf hc).trans ih

/-! ### Ends -/

/-- What is seen of a row, by what is staged of it. -/
theorem get?_view (s : Store) (i : TxId) (n : TableName) (id : Int) :
    ((s.view i).get n).get? id =
      (((s.changes i).get n).get? id).getD ((s.rows.get n).get? id) := by
  rw [view, Rows.get_overlay, Table.get?_overlay]
  cases ((s.changes i).get n).get? id <;> rfl

/-- A commit of another transaction leaves what is staged. -/
theorem changes_commit (s : Store) {tx : TxId} (h : tx ≠ i) :
    (s.commit tx).changes i = s.changes i := by
  rw [changes, changes, commit, drop, Table.get?_erase, if_neg h]

/-- **A commit shows as a whole**: row by row, and table by table. -/
theorem get?_view_commit (s : Store) {tx : TxId} (h : tx ≠ i) (n : TableName) (id : Int) :
    (((s.commit tx).view i).get n).get? id =
      (((s.changes i).get n).get? id).getD (((s.view tx).get n).get? id) := by
  rw [get?_view, changes_commit s h]
  rfl

/-- A transaction that has staged nothing sees what another one has committed. -/
theorem view_commit (s : Store) {tx : TxId} (h : tx ≠ i) (hn : s.changes i = .none) :
    (s.commit tx).view i = s.view tx := by
  rw [view, changes_commit s h, hn]
  rfl

/-- Who is dropped holds nothing any more, and the others hold what they held. -/
theorem holder?_drop (s : Store) (tx : TxId) (key : RowKey) :
    (s.drop tx).locks.holder? key =
      if s.locks.holder? key = some tx then none else s.locks.holder? key := by
  rw [drop, Locks.holder?_release]
  cases hk : s.locks.holder? key with
  | none => rfl
  | some j => by_cases hj : j = tx <;> simp [hj]

/-- **Transactions are isolated.**  From any store that comes about:

* While others begin, make calls and drop, a transaction sees the same rows. Its plain reads answer
  the same, a locking read finds the same and succeeds unless somebody else holds a row of it, and a
  claim gives of the same candidates those that nobody else holds.
* When another commits, each row of each table that the transaction has not staged itself is to it
  what it was to the other just before, and what it has staged itself stays. If it has staged
  nothing, its plain reads answer what they answered to the other.
* When another is dropped, the stored rows stay, and exactly the rows that it held are free. -/
theorem Reached.isolated {s : Store} (h : s.Reached) (i : TxId) :
    (∀ t, s.Beside i t → Undisturbed i s t) ∧
      (∀ tx, tx ≠ i →
        (∀ (n : TableName) (id : Int),
          (((s.commit tx).view i).get n).get? id =
            (((s.changes i).get n).get? id).getD (((s.view tx).get n).get? id)) ∧
        (s.changes i = .none → ∀ c : Call, c.IsPlain →
          ((s.commit tx).perform i c).1 = (s.perform tx c).1)) ∧
      ∀ tx, (s.drop tx).rows = s.rows ∧ ∀ key, (s.drop tx).locks.holder? key =
        if s.locks.holder? key = some tx then none else s.locks.holder? key := by
  refine ⟨fun t ht => undisturbed_of_view (ht.view_eq h), fun tx hne => ⟨fun n id => ?_, ?_⟩,
    fun tx => ⟨rfl, s.holder?_drop tx⟩⟩
  · exact s.get?_view_commit hne n id
  · intro hnone c hc
    exact plain_eq (s.view_commit hne hnone) hc

end Store

namespace Story

/-- Transaction 3 has made its steps beside transaction 2. -/
theorem beside_tried : locked.Beside 2 tried := by
  have hlocked : locked.IsOpen 3 := by decide +kernel
  have hrefused : (locked.perform 3 (.lockRequest 1 .noWait)).2.IsOpen 3 := by decide +kernel
  exact ((Store.Beside.refl locked).call hlocked (by decide) (.lockRequest 1 .noWait)).call hrefused
    (by decide) (.createRequest wish noon)

/-- Transaction 2 does not see the request that transaction 3 has asked for. It sees it when
transaction 3 has committed. -/
theorem isolated_tried :
    (tried.perform 2 (.getRequest 2)).1 = (locked.perform 2 (.getRequest 2)).1 ∧
      (locked.perform 2 (.getRequest 2)).1 = .error (.notFound "request" 2) ∧
      ((tried.commit 3).view 2).requests.get? 2 = (tried.view 3).requests.get? 2 ∧
      ((tried.view 3).requests.get? 2).isSome := by
  have hbefore := (Store.Reached.isolated reached_locked 2).1 tried beside_tried
  have hafter := ((Store.Reached.isolated (beside_tried.reached reached_locked) 2).2.1 3
    (by decide)).1 .requests 2
  have hunstaged : (tried.changes 2).requests.get? 2 = none := by decide +kernel
  refine ⟨hbefore.plain _ trivial, by rfl, ?_, by decide +kernel⟩
  rw [show ((tried.changes 2).get .requests).get? 2 = none from hunstaged] at hafter
  exact hafter

end Story
end LoanDesk
