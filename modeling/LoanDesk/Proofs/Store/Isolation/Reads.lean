/-
# Reads of what a transaction sees

A read that takes no lock depends on what the transaction sees and on nothing else
(`Store.plain_eq`). A read that takes locks finds the same rows wherever the same is seen, and gives
them or the refusal (`Store.locking_eq`). A claim gives the first of the candidates that nobody else
holds (`Store.claim_fst`).
-/

import LoanDesk.Proofs.Store.Claims

namespace LoanDesk

namespace Call

/-- The call looks at rows and takes no lock. -/
def IsPlain : Call → Prop
  | getRequest _ | listRequests _ _ | countRequests _ | offerWithRequest _ | offersOfRequest _
  | offersOfInvestor _ | getLine _ | linesOfRequests _ | expiredOffers _ | getContract _
  | contractOfLine _ | currentCeiling _ | listJobs _ _ => True
  | _ => False

/-- How a locking read says that somebody else holds what it needs. -/
def refusal? : Call → Option StoreError
  | lockRequest id .noWait => some (.locked "request" id)
  | lockRequest id .skipLocked => some (.notFound "request" id)
  | lockLinesOfOffer offer => some (.locked "offer" offer)
  | _ => none

end Call

namespace Store

variable {α β : Type} {s t : Store} {i j : TxId}

/-- Both of them only look, and they find the same. -/
def Agree (s t : Store) (m m' : Act α) : Prop := ∃ x, m s = (x, s) ∧ m' t = (x, t)

/-- Giving the same value agrees. -/
theorem agree_pure (a : α) : Agree s t (pure a) (pure a) := ⟨.ok a, rfl, rfl⟩

/-- Looking for the same row that may be missing agrees. -/
theorem agree_orError (e : StoreError) (a? : Option α) :
    Agree s t (orError e a?) (orError e a?) := by
  cases a? with
  | none => exact ⟨.error e, rfl, rfl⟩
  | some a => exact agree_pure a

/-- Steps that agree do so one after the other. -/
theorem Agree.bind {m m' : Act α} {f f' : α → Act β} (h : Agree s t m m')
    (hf : ∀ a, Agree s t (f a) (f' a)) : Agree s t (m >>= f) (m' >>= f') := by
  obtain ⟨x, hm, hm'⟩ := h
  cases x with
  | error e => exact ⟨.error e, by rw [bind_apply, hm], by rw [bind_apply, hm']⟩
  | ok a =>
    obtain ⟨y, hy, hy'⟩ := hf a
    exact ⟨y, by rw [bind_apply, hm]; exact hy, by rw [bind_apply, hm']; exact hy'⟩

/-- Two readings that find the same agree. -/
theorem agree_asks {f g : Store → α} (h : f s = g t) : Agree s t (asks f) (asks g) :=
  ⟨.ok (f s), rfl, by rw [h]; rfl⟩

/-- Two readings that may find nothing agree if they find the same. -/
theorem agree_found {f g : Store → Option α} (h : f s = g t) (e : StoreError) :
    Agree s t (do orError e (← asks f)) (do orError e (← asks g)) :=
  (agree_asks h).bind fun a? => agree_orError e a?

/-- Who sees the same reads the same request. -/
theorem agree_request (h : s.view i = t.view j) (id : Int) :
    Agree s t (request i id) (request j id) :=
  agree_found (by rw [h]) _

/-- **A plain read is settled by what is seen**, and does nothing. -/
theorem agree_act (h : s.view i = t.view j) {c : Call} (hc : c.IsPlain) :
    Agree s t (act i c) (act j c) := by
  cases c with
  | getRequest id => exact agree_request h id
  | offerWithRequest id =>
    rw [act, act]
    refine (agree_asks (by rw [h])).bind fun o? => (agree_orError _ o?).bind fun o => ?_
    exact (agree_request h o.request).bind fun r => agree_pure (o, r)
  | getLine _ | getContract _ => exact agree_found (by rw [h]) _
  | listRequests _ _ | countRequests _ | offersOfRequest _ | offersOfInvestor _ | linesOfRequests _
  | expiredOffers _ | contractOfLine _ | currentCeiling _ | listJobs _ _ =>
    rw [act, act]
    exact agree_asks (by rw [h])
  | _ => exact hc.elim

/-! ### Reads that take locks -/

/-- A locking read has found something, or has not. It gives what it has found if nobody else holds
the rows of it. -/
def Locking (s : Store) (i : TxId) (c : Call) (e : StoreError)
    (found : Except StoreError (List RowKey × c.Answer)) : Prop :=
  (s.perform i c).1 = found.bind fun x => if x.1.all (s.locks.isFree i) then .ok x.2 else .error e

/-- A locking read gives its answer if the rows are free, and else its error. -/
theorem lockOr_pure (i : TxId) (keys : List RowKey) (e : StoreError) (a : α) (s : Store) :
    ((do lockOr i keys e; return a : Act α) s).1 =
      if keys.all (s.locks.isFree i) then .ok a else .error e := by
  rw [bind_apply, lockOr_apply, tryLock]
  by_cases hall : keys.all (s.locks.isFree i)
  · rw [if_pos hall, if_pos hall]
    rfl
  · rw [if_neg hall, if_neg hall]

/-- The call looks at something, locks the rows of it and gives it. -/
theorem locking_of {c : Call} {m : Act c.Answer} {keys : c.Answer → List RowKey} {e : StoreError}
    {x : Except StoreError c.Answer} (hx : m s = (x, s))
    (hact : act i c s = (m >>= fun a => do lockOr i (keys a) e; return a) s) :
    s.Locking i c e (x.map fun a => (keys a, a)) := by
  rw [Locking, perform, hact, bind_apply, hx]
  cases x with
  | error e => rfl
  | ok a => exact lockOr_pure i _ e a s

/-- The lines of an offer, of which there is one at least. -/
def linesOf (i : TxId) (offer : Int) : Act (List Line) := do
  let ls ← asks fun s => (s.view i).lines.values.filter (·.offer == offer)
  if ls.isEmpty then throw (.notFound "offer" offer) else return ls

/-- Who sees the same finds the same lines of an offer. -/
theorem agree_linesOf (h : s.view i = t.view j) (offer : Int) :
    Agree s t (linesOf i offer) (linesOf j offer) := by
  refine (agree_asks (by rw [h])).bind fun ls => ?_
  split
  · exact agree_orError _ none
  · exact agree_pure ls

/-- Locking the lines of an offer is to find them and then to lock them. -/
theorem act_lockLinesOfOffer (i : TxId) (offer : Int) (s : Store) :
    act i (.lockLinesOfOffer offer) s = (do
      let ls ← linesOf i offer
      lockOr i (ls.map fun l => .line l.id) (.locked "offer" offer)
      return ls : Act (List Line)) s := by
  have hfind : asks (fun s => (s.view i).lines.values.filter (·.offer == offer)) s =
      (.ok ((s.view i).lines.values.filter (·.offer == offer)), s) := rfl
  rw [act, linesOf, bind_apply, bind_apply, bind_apply, hfind]
  dsimp only
  split <;> rfl

/-- Two transactions that see the same find the same rows to lock. -/
theorem locking_eq (h : s.view i = t.view j) {c : Call} {e : StoreError}
    (hc : c.refusal? = some e) : ∃ found, s.Locking i c e found ∧ t.Locking j c e found := by
  cases c with
  | lockRequest id mode =>
    obtain ⟨x, hx, hx'⟩ := agree_request h id
    have hact (k : TxId) : act k (.lockRequest id mode) =
        request k id >>= fun r => do lockOr k [.request id] e; return r := by
      cases mode <;> cases hc <;> rfl
    exact ⟨_, locking_of hx (congrFun (hact i) s), locking_of hx' (congrFun (hact j) t)⟩
  | lockLinesOfOffer offer =>
    cases hc
    obtain ⟨x, hx, hx'⟩ := agree_linesOf h offer
    exact ⟨_, locking_of hx (act_lockLinesOfOffer i offer s),
      locking_of hx' (act_lockLinesOfOffer j offer t)⟩
  | _ => cases hc

/-- **A read that takes no lock gives the same to whoever sees the same.** -/
theorem plain_eq (h : s.view i = t.view j) {c : Call} (hc : c.IsPlain) :
    (s.perform i c).1 = (t.perform j c).1 := by
  obtain ⟨x, hx, hx'⟩ := agree_act h hc
  rw [perform, perform, hx, hx']

/-- A claim gives the first of the open requests that satisfy a condition and that nobody else
holds. -/
theorem claim_fst (s : Store) (i : TxId) (p : Request → Bool) (limit : Option Int) :
    (claim i limit ((s.view i).requests.values.filter fun r => r.isPending && p r) s).1 =
      .ok (upTo limit ((s.book i).claimable (s.locks.isFree i) p)) := by
  obtain ⟨t, ht, -⟩ := @claim_eq i
    ((s.view i).requests.values.filter fun r => r.isPending && p r) limit s
  rw [ht]
  rfl

end Store
end LoanDesk
