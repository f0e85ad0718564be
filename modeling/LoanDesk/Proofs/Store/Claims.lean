/-
# Claims of requests

A claim walks the open requests that satisfy a condition, in the order of their numbers, passes over
those that others have locked, and locks the others up to its limit (`claim_eq`). So a claim never
fails, and what it gives is settled by what its transaction sees and by the locks that the others
hold (`Claimable`).

A `Ledger` notes which requests each transaction has claimed since it began. What is noted for a
transaction it has locked (`Claimed.held`), and nobody comes by a request that somebody else has
locked. So the ledgers of open transactions have nothing in common, and what one of them has claimed
no claim and no locking read gives to another before it ends (`Claimed.claims_exclusive`).
-/

import LoanDesk.Proofs.Store.Rebase

namespace LoanDesk

namespace Call

/-- The numbers of the requests that a claim gives. -/
def claimed : (c : Call) → c.Answer → List Int
  | .claimAboveRate _ _, rs | .claimBySymbol _, rs => rs.map Request.id
  | _, _ => []

/-- The numbers of the requests that a claim or a locking read gives. -/
def secured : (c : Call) → c.Answer → List Int
  | .lockRequest _ _, r => [r.id]
  | c, a => c.claimed a

/-- What is claimed is secured. -/
theorem mem_secured {c : Call} {a : c.Answer} {id : Int} (h : id ∈ c.claimed a) :
    id ∈ c.secured a := by
  cases c with
  | lockRequest => cases h
  | _ => exact h

end Call

namespace Store

variable {tx : TxId}

/-! ### One claim -/

/-- The requests are, in the order of their numbers, those that the transaction sees open, that
satisfy a condition, and that nobody else has locked. -/
structure Claimable (s : Store) (tx : TxId) (p : Request → Prop) (rs : List Request) : Prop where
  ascending : rs.Pairwise fun r r' => r.id < r'.id
  mem_iff : ∀ r, r ∈ rs ↔ (s.view tx).requests.get? r.id = some r ∧ r.isPending ∧ p r ∧
    ∀ holder, s.locks.holder? (.request r.id) = some holder → holder = tx

/-- The requests that are free to the transaction are claimed, up to the limit, and locked. -/
theorem claim_eq : ∀ (rs : List Request) (limit : Option Int) (s : Store),
    ∃ t, claim tx limit rs s =
        (.ok (upTo limit (rs.filter fun r => s.locks.isFree tx (.request r.id))), t) ∧
      ∀ r ∈ upTo limit (rs.filter fun r => s.locks.isFree tx (.request r.id)),
        t.locks.holder? (.request r.id) = some tx
  | [], limit, s => by
    rw [List.filter_nil, upTo_nil]
    exact ⟨s, rfl, List.forall_mem_nil _⟩
  | r :: rs, limit, s => by
    by_cases hlimit : limit.any (· ≤ 0)
    · rw [claim_cons_of_limit hlimit, upTo_of_limit hlimit]
      exact ⟨s, rfl, List.forall_mem_nil _⟩
    · rw [claim_cons_apply hlimit, List.filter_cons]
      rcases tryLock_cases s tx [.request r.id] with ⟨hall, t, ht, -, hfree⟩ | ⟨hall, ht⟩
      · have hr : s.locks.isFree tx (.request r.id) = true := by simpa using hall
        obtain ⟨u, hu, hheld⟩ := claim_eq rs (limit.map (· - 1)) t
        rw [ht, if_pos hr, upTo_cons hlimit]
        rw [hfree] at hu hheld
        refine ⟨u, ?_, fun r' hr' => ?_⟩
        · dsimp only
          rw [bind_apply, hu]
          rfl
        · rcases List.mem_cons.1 hr' with rfl | hr'
          · -- it was locked first, and the rest of the claim lets go of nothing
            have hlocked := holder?_of_tryLock ht List.mem_cons_self
            have hframe := @framed_claim tx rs (limit.map (· - 1)) t
            rw [hu] at hframe
            exact hframe.held _ hlocked
          · exact hheld r' hr'
      · have hr : s.locks.isFree tx (.request r.id) = false := by simpa using hall
        rw [ht, if_neg (by simp [hr])]
        exact claim_eq rs limit s

/-- A claim among what the transaction sees gives, up to its limit, what is claimable. -/
theorem claim_view {s : Store} (h : s.Numbered) (tx : TxId) (p : Request → Bool)
    (limit : Option Int) :
    ∃ rs t, claim tx limit ((s.view tx).requests.values.filter fun r => r.isPending && p r) s =
        (.ok (upTo limit rs), t) ∧ s.Claimable tx (p · = true) rs ∧
      ∀ r ∈ upTo limit rs, t.locks.holder? (.request r.id) = some tx := by
  have hkeyed : (s.view tx).requests.Keyed Request.id := fun _ _ hr => (h.seen_request hr).1
  obtain ⟨t, ht, hheld⟩ := @claim_eq tx
    ((s.view tx).requests.values.filter fun r => r.isPending && p r) limit s
  refine ⟨_, t, ht, ⟨(hkeyed.ascending_values.filter _).filter _, fun r => ?_⟩, hheld⟩
  rw [List.mem_filter, List.mem_filter, hkeyed.mem_values, Locks.isFree_iff, Bool.and_eq_true,
    and_assoc, and_assoc]

/-- A locking read gives the request that is seen. -/
theorem get?_of_lockRequest {s t : Store} {id : Int} {mode : LockMode} {r : Request}
    (hp : s.perform tx (.lockRequest id mode) = (.ok r, t)) :
    (s.view tx).requests.get? id = some r := by
  change (request tx id >>= fun r => lockOr tx [.request id] _ >>= fun _ => pure r) s = _ at hp
  have hrequest : request tx id s = orError (.notFound "request" id)
      ((s.view tx).requests.get? id) s := rfl
  rw [bind_apply, hrequest] at hp
  cases hget : (s.view tx).requests.get? id with
  | none =>
    rw [hget] at hp
    cases hp
  | some r' =>
    rw [hget] at hp
    change (lockOr tx [.request id] _ >>= fun _ => pure r') s = _ at hp
    rw [bind_apply, lockOr_apply] at hp
    cases ht : s.tryLock tx [.request id] with
    | none =>
      rw [ht] at hp
      cases hp
    | some u =>
      rw [ht] at hp
      obtain ⟨⟨⟩, -⟩ := Prod.mk.inj hp
      rfl

/-- What a claim or a locking read gives, the transaction has locked. -/
theorem holder?_of_secured {s t : Store} (h : s.Numbered) {c : Call} {a : c.Answer}
    (hp : s.perform tx c = (.ok a, t)) {id : Int} (hid : id ∈ c.secured a) :
    t.locks.holder? (.request id) = some tx := by
  have hclaimed : ∀ {p : Request → Bool} {limit : Option Int} {rs : List Request},
      claim tx limit ((s.view tx).requests.values.filter fun r => r.isPending && p r) s =
        (.ok rs, t) → id ∈ rs.map Request.id → t.locks.holder? (.request id) = some tx := by
    intro p limit rs hclaim hid
    obtain ⟨rs', t', hclaim', -, hheld⟩ := claim_view h tx p limit
    rw [hclaim] at hclaim'
    obtain ⟨⟨⟩, rfl⟩ := Prod.mk.inj hclaim'
    obtain ⟨r, hr, rfl⟩ := List.mem_map.1 hid
    exact hheld r hr
  cases c with
  | lockRequest i mode =>
    have hi := (h.seen_request (get?_of_lockRequest hp)).1
    rw [List.mem_singleton.1 hid, hi]
    exact grasps_lockRequest i mode s a t hp _ List.mem_cons_self
  | claimAboveRate rate limit => exact hclaimed hp hid
  | claimBySymbol symbol => exact hclaimed hp hid
  | _ => cases hid

/-! ### Claims of all transactions -/

/-- Which requests each transaction has claimed since it began. -/
abbrev Ledger := TxId → List Int

/-- A claim is noted with what it gives, and the notes of a transaction are struck out when it
ends. -/
def Ledger.after (l : Ledger) : (c : Command) → c.Answer → Ledger
  | .call tx c, .ok a => fun i => if i = tx then l i ++ c.claimed a else l i
  | .commit tx, _ | .drop tx, _ => fun i => if i = tx then [] else l i
  | .call _ _, .error _ | .begin, _ | .deliver _, _ => l

/-- The store comes about by begun transactions, calls in open ones and their ends, in whatever
order, and the claims that were made on the way are those in the ledger. -/
inductive Claimed : Store → Ledger → Prop
  | empty : Claimed .empty fun _ => []
  | step {s t : Store} {l : Ledger} {c : Command} {x : c.Answer} (h : Claimed s l)
    (hc : ∀ tx d, c = .call tx d → s.IsOpen tx) (hs : s.Does c x t) : Claimed t (l.after c x)

namespace Claimed

variable {s t : Store} {l : Ledger}

/-- A store with a ledger of claims comes about. -/
theorem reached (h : s.Claimed l) : s.Reached := by
  induction h with
  | empty => exact .empty
  | step _ hc hs ih => exact ih.step hc hs

/-- Beginning claims nothing. -/
theorem begin (h : s.Claimed l) : s.begin.2.Claimed l := by
  refine h.step (c := .begin) (x := .ok s.begin.1) (fun i d hc => ?_) ⟨rfl, rfl⟩
  cases hc

/-- A call notes what it claims. -/
theorem call (h : s.Claimed l) {tx : TxId} (ho : s.IsOpen tx) (c : Call) :
    (s.perform tx c).2.Claimed (l.after (.call tx c) (s.perform tx c).1) := by
  refine h.step (c := .call tx c) (x := (s.perform tx c).1) (fun i d hc => ?_) rfl
  cases hc
  exact ho

/-- The claims of a transaction are struck out when it commits. -/
theorem commit (h : s.Claimed l) (tx : TxId) :
    (s.commit tx).Claimed (l.after (.commit tx) (.ok ())) := by
  refine h.step (c := .commit tx) (x := .ok ()) (fun i d hc => ?_) ⟨rfl, rfl⟩
  cases hc

/-- **What is noted for a transaction it has locked**: what its claims gave it, and until it ends
it keeps that. -/
theorem held (h : s.Claimed l) {tx : TxId} {id : Int} (hid : id ∈ l tx) :
    s.locks.holder? (.request id) = some tx := by
  induction h with
  | empty => cases hid
  | @step s t l c x h hc hs ih =>
    have hguards := h.reached.guards
    cases c with
    | begin => exact (hs.row?_eq hguards (ih hid) ⟨nofun, nofun⟩).1
    | deliver e => exact (hs.row?_eq hguards (ih hid) ⟨nofun, nofun⟩).1
    | call i c =>
      have hkept := fun hid => (hs.row?_eq hguards (ih hid) ⟨nofun, nofun⟩).1
      cases x with
      | error e => exact hkept hid
      | ok a =>
        simp only [Ledger.after] at hid
        split at hid
        · rename_i hi
          subst hi
          rcases List.mem_append.1 hid with hid | hid
          · exact hkept hid
          · exact holder?_of_secured h.reached.numbered hs.symm (Call.mem_secured hid)
        · exact hkept hid
    | commit i =>
      simp only [Ledger.after] at hid
      split at hid
      · cases hid
      · rename_i hi
        exact (hs.row?_eq hguards (ih hid) ⟨fun he => hi (Command.commit.inj he).symm, nofun⟩).1
    | drop i =>
      simp only [Ledger.after] at hid
      split at hid
      · cases hid
      · rename_i hi
        exact (hs.row?_eq hguards (ih hid) ⟨nofun, fun he => hi (Command.drop.inj he).symm⟩).1

/-- **Claims are exclusive.**  However many transactions make steps in whatever order, those that
are open at the same time have claimed different requests, and what one of them has claimed no claim
and no locking read gives to another. A claim never fails: it gives, in the order of their numbers,
the open requests that its transaction sees, that satisfy the condition and that no other
transaction has locked, by rate no more of them than the limit and none where that is not positive;
and the transaction has then locked each that it was given. -/
theorem claims_exclusive (h : s.Claimed l) :
    (∀ tx tx', tx ≠ tx' → ∀ id ∈ l tx, id ∉ l tx') ∧
    (∀ tx tx' c a t, tx ≠ tx' → s.perform tx' c = (.ok a, t) → ∀ id ∈ l tx, id ∉ c.secured a) ∧
    (∀ tx rate limit, ∃ rs t, s.Claimable tx (rate ≤ ·.loanRate) rs ∧
      s.perform tx (.claimAboveRate rate limit) = (.ok (rs.take limit.toNat), t) ∧
      ∀ r ∈ rs.take limit.toNat, t.locks.holder? (.request r.id) = some tx) ∧
    ∀ tx symbol, ∃ rs t, s.Claimable tx (·.symbol = symbol) rs ∧
      s.perform tx (.claimBySymbol symbol) = (.ok rs, t) ∧
      ∀ r ∈ rs, t.locks.holder? (.request r.id) = some tx := by
  refine ⟨fun tx tx' hne id hid hid' => ?_, fun tx tx' c a t hne hp id hid hsecured => ?_,
    fun tx rate limit => ?_, fun tx symbol => ?_⟩
  · have hheld := h.held hid
    rw [h.held hid'] at hheld
    exact hne (Option.some.inj hheld).symm
  · have hheld := holder?_of_secured h.reached.numbered hp hsecured
    have hframe := perform_frame s tx' c
    rw [hp] at hframe
    rw [(hframe.locks _ tx hne).2 (h.held hid)] at hheld
    exact hne (Option.some.inj hheld)
  · obtain ⟨rs, t, ht, hclaimable, hheld⟩ :=
      claim_view h.reached.numbered tx (fun r => rate ≤ r.loanRate) (some limit)
    exact ⟨rs, t, by simpa using hclaimable, ht, hheld⟩
  · obtain ⟨rs, t, ht, hclaimable, hheld⟩ :=
      claim_view h.reached.numbered tx (fun r => r.symbol == symbol) none
    exact ⟨rs, t, by simpa using hclaimable, ht, hheld⟩

end Claimed
end Store

namespace Story

/-- Requests 1 and 2 are stored, and two transactions are open. -/
def wished : Store :=
  let asked := (Store.empty.begin.2.perform 1 (.createRequest wish noon)).2
  ((asked.perform 1 (.createRequest wish noon)).2.commit 1).begin.2.begin.2

/-- Transaction 2 claims one request by its rate. -/
def claimedOne : Store := (wished.perform 2 (.claimAboveRate .zero 1)).2

/-- Transaction 3 claims all requests for a symbol. -/
def claimedRest : Store := (claimedOne.perform 3 (.claimBySymbol 1)).2

/-- The store with both claims comes about, and its ledger shows one claim for each transaction. -/
theorem claimed_claimedRest : ∃ l, claimedRest.Claimed l ∧ l 2 = [1] ∧ l 3 = [2] := by
  have hfirst : Store.empty.begin.2.IsOpen 1 := by decide +kernel
  have hsecond : (Store.empty.begin.2.perform 1 (.createRequest wish noon)).2.IsOpen 1 := by
    decide +kernel
  have hone : wished.IsOpen 2 := by decide +kernel
  have hrest : claimedOne.IsOpen 3 := by decide +kernel
  have hasked := (Store.Claimed.empty.begin.call hfirst (.createRequest wish noon)).call hsecond
    (.createRequest wish noon)
  have hclaimed := ((hasked.commit 1).begin.begin.call hone (.claimAboveRate .zero 1)).call hrest
    (.claimBySymbol 1)
  exact ⟨_, hclaimed, by decide +kernel, by decide +kernel⟩

/-- The second claim passes over what the first has taken, and leaves nothing for a third. -/
theorem claims_exclusive_overlapping :
    ∃ l, claimedRest.Claimed l ∧ l 2 = [1] ∧ l 3 = [2] ∧ (∀ id ∈ l 2, id ∉ l 3) ∧
      ∀ c a t, claimedRest.perform 2 c = (.ok a, t) → 2 ∉ c.secured a := by
  obtain ⟨l, hl, hone, hrest⟩ := claimed_claimedRest
  obtain ⟨hdisjoint, hsecured, -⟩ := hl.claims_exclusive
  refine ⟨l, hl, hone, hrest, hdisjoint 2 3 (by decide), fun c a t hp => ?_⟩
  exact hsecured 3 2 c a t (by decide) hp 2 (by rw [hrest]; exact List.mem_cons_self)

end Story
end LoanDesk
