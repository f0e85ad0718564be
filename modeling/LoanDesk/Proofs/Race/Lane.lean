/-
# One of several programs that compete for a request

While the transaction of a lane holds the request, it holds every lock there is, so that no call fails
for a lock and nobody else takes a number: it goes on as if it were alone (`Brings.holds`). Before that
it sees the rows of the start or those of a winner (`Brings.looks`), and at the lock it learns which
(`Brings.locks`). So a bracket wins or is beaten (`ensures_bracket`).
-/

import LoanDesk.Proofs.Race.Lane.Course

namespace LoanDesk

/-- Locking a request gives the request, unless somebody else holds it. -/
theorem Store.perform_lockRequest {s : Store} {tx : TxId} {id : Int} {r : Request}
    (h : (s.view tx).requests.get? id = some r) :
    s.perform tx (.lockRequest id .noWait) = match s.tryLock tx [.request id] with
      | some t => (.ok r, t)
      | none => (.error (.locked "request" id), s) := by
  have hr : request tx id s = (.ok r, s) := by
    change orError _ ((s.view tx).requests.get? id) s = _
    rw [h]
    rfl
  change (request tx id >>= fun r => lockOr tx [.request id] _ >>= fun _ => pure r) s = _
  rw [bind_apply, hr]
  dsimp only
  rw [bind_apply, lockOr_apply]
  cases s.tryLock tx [.request id] <;> rfl

namespace Program

variable {ι α β ε : Type} {C : Course ι} {i : ι} {ℓ : Lane ι} {tx : TxId} {w : Option ι} {b b' : Book}
  {blame : StoreError → ε} {Q : β → Lane ι → Prop} {E : ε → Lane ι → Prop}

/-! ### Calls -/

/-- One step of a lane, after whatever the others have done. -/
theorem ensures_step {c : Command} {next : c.Answer → Program β}
    (h : ∀ m, C.Others i ℓ m → C.Fit m → ∀ x t, m.store.Does c x t →
      C.Fair m c ⟨c.after m.mine x, t, c.wins i m.winner⟩ ∧
        Ensures (C.contest i) Q (next x) ⟨c.after m.mine x, t, c.wins i m.winner⟩) :
    Ensures (C.contest i) Q (.step c next) ℓ := by
  rintro m ho x ⟨mine, store, winner⟩ ⟨hfit, hdoes, hmine, hwinner⟩
  dsimp only at hmine hwinner
  subst hmine hwinner
  exact h m ho hfit x store hdoes

/-- One call of a lane and what follows on its answer. -/
theorem Brings.calls {c : Call} {f : c.Answer → ExceptT ε Program β}
    (h : ∀ m, C.Others i ℓ m → C.Fit m → ∀ x t, m.store.perform tx c = (x, t) →
      C.Fair m (.call tx c) ⟨m.mine, t, m.winner⟩ ∧ match x with
        | .ok a => Brings (C.contest i) Q E (f a) ⟨m.mine, t, m.winner⟩
        | .error e => ∀ v, C.Others i ⟨m.mine, t, m.winner⟩ v → E (blame e) v) :
    Brings (C.contest i) Q E (Program.ask blame tx c >>= f) ℓ := by
  refine ensures_step fun m ho hfit x t hd => ?_
  obtain ⟨hfair, hnext⟩ := h m ho hfit x t (show (x, t) = _ from hd).symm
  refine ⟨hfair, ?_⟩
  cases x with
  | ok a => exact hnext
  | error e => exact hnext

/-- Before the request is locked the lane sees what is stored. -/
theorem Brings.looks {c : Call} {g : Rows → Except StoreError c.Answer}
    {f : c.Answer → ExceptT ε Program β} (hg : ∀ s : Store, s.perform tx c = (g (s.view tx), s))
    (hℓ : C.Looks i tx ℓ)
    (h : ∀ m, C.Looks i tx m → (m.winner = none → ℓ.winner = none) →
      ∃ a, g (C.rows m.winner) = .ok a ∧ Brings (C.contest i) Q E (f a) m) :
    Brings (C.contest i) Q E (Program.ask blame tx c >>= f) ℓ := by
  refine Brings.calls fun m ho hfit x t hp => ?_
  have hm := hℓ.others ho
  obtain ⟨a, ha, hnext⟩ := h m hm ho.winner_eq_none
  rw [hg, hm.view, hfit.rows, ha] at hp
  obtain ⟨rfl, rfl⟩ := Prod.mk.inj hp
  have howned : tx ∈ m.mine := by simp [hm.mine]
  exact ⟨.still hfit howned, hnext⟩

/-- At the lock the lane learns whether it is the first, or late, or somebody else is at it. -/
theorem Brings.locks {f : Request → ExceptT ε Program β} (hℓ : C.Looks i tx ℓ)
    (hk : ∀ w, (C.rows w).Keyed) (hr : ∀ w, ∃ r, (C.rows w).requests.get? C.request = some r)
    (busy : ∀ m, C.Beaten i tx m → E (blame (.locked "request" C.request)) m)
    (first : ∀ r m, C.start.rows.requests.get? C.request = some r → ℓ.winner = none →
      C.Holds i tx none C.start m → Brings (C.contest i) Q E (f r) m)
    (late : ∀ k r last m, (C.finish k).requests.get? C.request = some r →
      C.Holds i tx (some k) ⟨C.finish k, last⟩ m → Brings (C.contest i) Q E (f r) m) :
    Brings (C.contest i) Q E (Program.ask blame tx (.lockRequest C.request .noWait) >>= f) ℓ := by
  refine Brings.calls fun m ho hfit x t hp => ?_
  have hm := hℓ.others ho
  have hframe := Store.perform_frame m.store tx (.lockRequest C.request .noWait)
  obtain ⟨r, hget⟩ := hr m.winner
  have hlock : m.store.perform tx (.lockRequest C.request .noWait) = _ :=
    Store.perform_lockRequest (r := r) (by rw [hm.view, hfit.rows]; exact hget)
  rw [hp] at hframe hlock
  cases ht : m.store.tryLock tx [.request C.request] with
  | some u =>
    rw [ht] at hlock
    obtain ⟨rfl, rfl⟩ := Prod.mk.inj hlock
    have hnone := hm.unlocked hfit ht
    have hholds := hm.holds hfit (hk m.winner) ht
    refine ⟨.frame hfit hm.mine hframe rfl rfl hholds.held
      fun key other h => absurd h (hnone key other), ?_⟩
    cases hwin : m.winner with
    | none =>
      rw [hwin] at hholds hget
      have hlast : m.store.lastId = C.start.last := by
        refine hfit.last hwin ?_
        cases hh : C.holder? m with
        | none => rfl
        | some other => exact absurd hh (hnone _ other)
      rw [hlast] at hholds
      exact first r _ hget (ho.winner_eq_none hwin) hholds
    | some k =>
      rw [hwin] at hholds hget
      exact late k r _ _ hget hholds
  | none =>
    rw [ht] at hlock
    obtain ⟨rfl, rfl⟩ := Prod.mk.inj hlock
    have howned : tx ∈ m.mine := by simp [hm.mine]
    exact ⟨.still hfit howned, fun v hv => busy v ((hm.beaten ht).others hv)⟩

/-- **A lane that holds the request goes on as if it were alone.** -/
theorem Brings.holds {c : Call} {a : c.Answer} {f : c.Answer → ExceptT ε Program β}
    (hℓ : C.Holds i tx w b ℓ) (hp : b.perform (fun _ => true) c = .ok (a, b'))
    (h : ∀ m, C.Holds i tx w b' m → Brings (C.contest i) Q E (f a) m) :
    Brings (C.contest i) Q E (Program.ask blame tx c >>= f) ℓ := by
  refine Brings.calls fun m ho hfit x t hd => ?_
  have hm := hℓ.others ho
  have hframe := Store.perform_frame m.store tx c
  rw [hd] at hframe
  have hheld : C.holder? ⟨m.mine, t, m.winner⟩ = some tx := hframe.held _ hm.held
  have hfree : m.store.locks.isFree tx = fun _ => true := funext fun key =>
    Locks.isFree_iff.2 fun other hk => hfit.holder_eq hm.held hk
  have hkeyed : (m.store.view tx).Keyed := by
    have hk := hm.keyed
    rw [← hm.book] at hk
    exact hk
  refine ⟨.frame hfit hm.mine hframe rfl rfl hheld fun key other hk => hfit.holder_eq hm.held hk, ?_⟩
  cases x with
  | ok a' =>
    obtain ⟨hbook, -, hkeyed'⟩ := Store.perform_ok hkeyed hd
    rw [hfree, hm.book, hp] at hbook
    obtain ⟨rfl, rfl⟩ := Prod.mk.inj (Except.ok.inj hbook)
    exact h _ ⟨hm.mine, hheld, rfl, hkeyed', hm.winner, hm.loses⟩
  | error e =>
    have hbook := Store.perform_error hkeyed hd
    rw [hfree, hm.book, hp] at hbook
    cases hbook

/-! ### Brackets -/

/-- A lane begins its transaction, and looks. -/
theorem ensures_begin {p : TxId → Program (Except ε α)} {Q : Except ε α → Lane ι → Prop}
    (hmine : ℓ.mine = []) (hloses : ℓ.winner ≠ some i)
    (h : ∀ tx m, C.Looks i tx m → Ensures (C.contest i) Q (p tx) m) :
    Ensures (C.contest i) Q (.step .begin (openWith blame p)) ℓ := by
  refine ensures_step fun m ho hfit x t ⟨hx, ht⟩ => ?_
  subst hx ht
  have hnone : m.mine = [] := ho.mine.trans hmine
  have hnew : ∀ key, m.store.locks.holder? key ≠ some m.store.begin.1 := by
    intro key hk
    have hle := hfit.orderly.numbered _ (hfit.orderly.held key _ hk)
    exact absurd hle (Int.not_le.2 (Int.lt_succ _))
  refine ⟨⟨⟨fun _ => rfl, id⟩, trivial, ?_, fun _ _ _ => ⟨rfl, rfl, rfl⟩⟩, h _ _ ?_⟩
  · refine ⟨hfit.orderly.begin, fun tx htx => ?_, hfit.rows, hfit.locked, hfit.last⟩
    refine (Store.isOpen_begin _ _).2 ((List.mem_cons.1 htx).imp id fun hm => ?_)
    exact hfit.isOpen tx hm
  · refine ⟨?_, ?_, hnew _, ho.loses hloses⟩
    · change m.store.begin.1 :: m.mine = _
      rw [hnone]
    · simp only [Store.changes, Store.begin, Table.get?_insert, if_pos]
      rfl

/-- A lane that is beaten ends its transaction, and is no more. -/
theorem ensures_drop_beaten (hℓ : C.Beaten i tx ℓ) (r : β) :
    Ensures (C.contest i) (fun r' m => r' = r ∧ m.mine = [] ∧ m.winner ≠ some i ∧ C.Decided m)
      (.step (.drop tx) fun _ => .done r) ℓ := by
  refine ensures_step fun m ho hfit x t hd => ?_
  have hm := hℓ.others ho
  obtain rfl : t = m.store.drop tx := hd
  have hnil : m.mine.filter (· != tx) = [] := by simp [hm.mine]
  have hholder : ∀ key other, (m.store.drop tx).locks.holder? key = some other ↔
      other ≠ tx ∧ m.store.locks.holder? key = some other := by
    intro key other
    rw [Store.drop, Locks.holder?_release, Option.filter_eq_some_iff]
    simp [and_comm]
  have hdecided : C.Decided ⟨m.mine.filter (· != tx), m.store.drop tx, m.winner⟩ := by
    rcases hm.decided with hwin | ⟨other, hne, hh⟩
    · exact Or.inl hwin
    · exact Or.inr (Option.ne_none_iff_exists'.2 ⟨other, (hholder _ _).2 ⟨hne, hh⟩⟩)
  have howned : tx ∈ m.mine := by simp [hm.mine]
  refine ⟨⟨⟨fun _ => rfl, fun _ => hdecided⟩, howned, ?_, fun _ _ _ => ⟨rfl, rfl, rfl⟩⟩,
    fun v hv => ⟨rfl, hv.mine.trans hnil, hv.loses hm.loses, hv.decided hdecided⟩⟩
  refine ⟨hfit.orderly.drop tx, fun j hj => ?_, hfit.rows, fun key other hk => ?_,
    fun hwin hnone => ?_⟩
  · exact absurd (show j ∈ m.mine.filter (· != tx) from hj) (by simp [hnil])
  · obtain ⟨hne, hk⟩ := (hholder key other).1 hk
    exact (hholder _ other).2 ⟨hne, hfit.locked key other hk⟩
  · rcases hdecided with h | h
    · exact absurd hwin h
    · exact absurd hnone h

/-- The lane that holds the request commits, and has won. -/
theorem ensures_commit_holds {last : Int} {next : _ → Program β}
    (hℓ : C.Holds i tx none ⟨C.finish i, last⟩ ℓ) {r : β} (hr : next (.ok ()) = .done r) :
    Ensures (C.contest i) (fun r' m => r' = r ∧ m.mine = [] ∧ m.winner = some i)
      (.step (.commit tx) next) ℓ := by
  refine ensures_step fun m ho hfit x t ⟨hx, ht⟩ => ?_
  subst hx ht
  have hm := hℓ.others ho
  have hnil : m.mine.filter (· != tx) = [] := by simp [hm.mine]
  have hnone : ∀ key other, (m.store.commit tx).locks.holder? key ≠ some other := by
    intro key other hk
    change (m.store.locks.release tx).holder? key = some other at hk
    rw [Locks.holder?_release, Option.filter_eq_some_iff] at hk
    exact absurd (hfit.holder_eq hm.held hk.1) (by simpa using hk.2)
  have howned : tx ∈ m.mine := by simp [hm.mine]
  refine ⟨⟨⟨fun h => absurd hm.winner h, fun _ => Or.inl (Option.some_ne_none i)⟩, howned, ?_, ?_⟩, ?_⟩
  · refine ⟨hfit.orderly.commit tx, fun j hj => ?_, congrArg Book.rows hm.book,
      fun key other hk => absurd hk (hnone key other), fun h => nomatch h⟩
    exact absurd (show j ∈ m.mine.filter (· != tx) from hj) (by simp [hnil])
  · intro other hother hh
    rw [hfit.holder_eq hm.held hh] at hother
    exact absurd howned hother
  · rw [hr]
    exact fun v hv => ⟨rfl, hv.mine.trans hnil, (hv.winner (Option.some_ne_none i)).trans rfl⟩

/-- **A bracket wins or is beaten.**  It wins if its body gets the request and makes what the lane
would leave. -/
theorem ensures_bracket {body : TxId → ExceptT ε Program α} {P : ε → Prop}
    (hbody : ∀ tx m, C.Looks i tx m → Brings (C.contest i)
      (fun _ m => ∃ last, C.Holds i tx none ⟨C.finish i, last⟩ m)
      (fun e m => C.Beaten i tx m ∧ P e) (body tx) m)
    (hmine : ℓ.mine = []) (hloses : ℓ.winner ≠ some i) :
    Brings (C.contest i) (fun _ m => m.mine = [] ∧ m.winner = some i)
      (fun e m => P e ∧ m.mine = [] ∧ m.winner ≠ some i ∧ C.Decided m)
      (bracket blame (fun _ => true) body) ℓ := by
  unfold Brings
  rw [bracket_run]
  refine ensures_begin hmine hloses fun tx m hm => Ensures.bind (fun r t ht => ?_) (hbody tx m hm)
  have ht := ht t (.refl i t)
  cases r with
  | error e =>
    obtain ⟨hbeaten, hP⟩ := ht
    refine (ensures_drop_beaten hbeaten (Except.error e)).mono ?_
    rintro r u ⟨rfl, hu⟩
    exact ⟨hP, hu⟩
  | ok a =>
    obtain ⟨last, hholds⟩ := ht
    refine (ensures_commit_holds hholds (r := Except.ok a) rfl).mono ?_
    rintro r u ⟨rfl, hu⟩
    exact hu

end Program
end LoanDesk
