/-
# What calls answer on a book

For each call the answers that it may give and the book that it leaves, where it gives an answer at
all. These statements are what the bodies of brackets are followed with; nothing unfolds
`Book.perform` any more.
-/

import LoanDesk.Proofs.Store.Book

namespace LoanDesk

/-- Sorting neither adds rows nor loses any. -/
theorem mem_newestFirst {α : Type} {key : α → Instant × Int} {rows : List α} {a : α} :
    a ∈ newestFirst key rows ↔ a ∈ rows := List.mem_mergeSort

/-- The lines of several requests. -/
def Rows.linesOfAll (rows : Rows) (requests : List Int) : List Line :=
  newestFirst (fun l => (l.createdAt, l.id)) <|
    rows.lines.values.filter fun l => requests.contains l.request

/-- The lines that are looked up for a request are stored and belong to it. -/
theorem Rows.Keyed.line_of_newest {rows : Rows} (hk : rows.Keyed) {id : Int} {l : Line}
    (h : l ∈ newestFirst (fun l => (l.createdAt, l.id))
      (rows.lines.values.filter fun l => [id].contains l.request)) :
    rows.lines.get? l.id = some l ∧ l.request = id := by
  obtain ⟨hl, hreq⟩ := List.mem_filter.1 (mem_newestFirst.1 h)
  exact ⟨hk.lines.mem_values.1 hl, by simpa using hreq⟩

/-- Lines made of drafts under consecutive numbers. -/
def LineDraft.toLines (offer request : Int) (now : Instant) : Int → List LineDraft → List Line
  | _, [] => []
  | id, d :: ds => d.toLine id offer request now :: toLines offer request now (id + 1) ds

/-- Every line is made of one of the drafts, under one of the numbers. -/
theorem LineDraft.of_mem_toLines {offer request : Int} {now : Instant} {l : Line} :
    ∀ (ds : List LineDraft) (n : Int), l ∈ toLines offer request now n ds →
      ∃ d ∈ ds, ∃ id, n ≤ id ∧ l = d.toLine id offer request now
  | [], _, hl => absurd hl List.not_mem_nil
  | d :: ds, n, hl => by
    rcases List.mem_cons.1 hl with rfl | hl
    · exact ⟨d, List.mem_cons_self, n, Int.le_refl n, rfl⟩
    · obtain ⟨d', hd, id, hid, hl⟩ := of_mem_toLines ds (n + 1) hl
      exact ⟨d', List.mem_cons_of_mem _ hd, id, by omega, hl⟩

namespace Book

/-! ### Checks -/

/-- Two steps give a result if the first does and the second does on it. -/
theorem bind_eq_ok {ε α β : Type} {x : Except ε α} {f : α → Except ε β} {b : β} :
    (x >>= f) = .ok b ↔ ∃ a, x = .ok a ∧ f a = .ok b := by
  cases x with
  | error e => exact ⟨nofun, fun ⟨_, h, _⟩ => nomatch h⟩
  | ok a => exact ⟨fun h => ⟨a, rfl, h⟩, fun ⟨_, h, hf⟩ => by cases h; exact hf⟩

/-- A demand is met if all of the rows are free. -/
theorem demand_eq_ok {free : RowKey → Bool} {keys : List RowKey} {e : StoreError} {u : Unit} :
    demand free keys e = .ok u ↔ ∀ key ∈ keys, free key = true := by
  unfold demand
  rw [← List.all_eq_true]
  split
  · rename_i h
    simp [h]
  · rename_i h
    simp [h]

/-- Rows that are demanded one by one are all free. -/
theorem demandEach_eq_ok {free : RowKey → Bool} {key : Int → RowKey} {entity : String}
    {ids : List Int} {u : Unit} :
    demandEach free key entity ids = .ok u ↔ ∀ id ∈ ids, free (key id) = true := by
  unfold demandEach
  cases h : ids.find? fun id => !free (key id) with
  | none => simpa using h
  | some id =>
    have hmem := List.mem_of_find?_eq_some h
    have hid := List.find?_some h
    simp only [reduceCtorEq, false_iff]
    exact fun hall => by simp [hall id hmem] at hid

/-- What is found is there. -/
theorem found_eq_ok {α : Type} {e : StoreError} {a? : Option α} {a : α} :
    found e a? = .ok a ↔ a? = some a := by
  cases a? <;> simp [found]

/-- A request is read if it stands under the number. -/
theorem request_eq_ok {b : Book} {id : Int} {r : Request} :
    b.request id = .ok r ↔ b.rows.requests.get? id = some r := found_eq_ok

/-- A value is given as it is. -/
theorem pure_eq_ok {ε α : Type} {a a' : α} : (pure a : Except ε α) = .ok a' ↔ a = a' :=
  ⟨Except.ok.inj, congrArg _⟩

variable {free : RowKey → Bool} {b b' : Book}

/-! ### Requests -/

/-- A request is created under the next number, which has to be free. -/
theorem createRequest_eq_ok {d : RequestDraft} {now : Instant} {r : Request} :
    b.perform free (.createRequest d now) = .ok (r, b') ↔
      r = d.toRequest (b.last + 1) now ∧ free (.request r.id) ∧
        b' = ⟨b.rows.putRequest r, b.last + 1⟩ := by
  simp only [perform, bind_eq_ok, demand_eq_ok, pure_eq_ok, Prod.mk.injEq, List.forall_mem_singleton]
  grind

/-- A request is locked if it is there and free. -/
theorem lockRequest_eq_ok {id : Int} {mode : LockMode} {r : Request} :
    b.perform free (.lockRequest id mode) = .ok (r, b') ↔
      b.rows.requests.get? id = some r ∧ free (.request id) ∧ b' = b := by
  simp only [perform, bind_eq_ok, demand_eq_ok, request_eq_ok, pure_eq_ok, Prod.mk.injEq,
    List.forall_mem_singleton]
  grind

/-- A request gets its status if it is there and free. -/
theorem setRequestStatus_eq_ok {id : Int} {status : RequestStatus} {now : Instant} {u : Unit} :
    b.perform free (.setRequestStatus id status now) = .ok (u, b') ↔
      (∃ r, b.rows.requests.get? id = some r) ∧ free (.request id) ∧
        b' = { b with rows := b.rows.setRequests (·.id == id) status now } := by
  simp only [perform, bind_eq_ok, demand_eq_ok, request_eq_ok, pure_eq_ok, Prod.mk.injEq,
    List.forall_mem_singleton]
  grind

/-- An offer comes with its request, and both have to be there. -/
theorem offerWithRequest_eq_ok {id : Int} {x : Offer × Request} :
    b.perform free (.offerWithRequest id) = .ok (x, b') ↔
      b.rows.offers.get? id = some x.1 ∧ b.rows.requests.get? x.1.request = some x.2 ∧ b' = b := by
  simp only [perform, bind_eq_ok, found_eq_ok, request_eq_ok, pure_eq_ok, Prod.mk.injEq]
  grind

/-- The lines of an offer are locked all together, if there are any and all are free. -/
theorem lockLinesOfOffer_eq_ok {offer : Int} {ls : List Line} :
    b.perform free (.lockLinesOfOffer offer) = .ok (ls, b') ↔
      ls = b.rows.lines.values.filter (·.offer == offer) ∧ ls ≠ [] ∧
        (∀ l ∈ ls, free (.line l.id) = true) ∧ b' = b := by
  simp only [perform]
  split
  · grind
  · simp only [bind_eq_ok, demand_eq_ok, pure_eq_ok, Prod.mk.injEq, List.forall_mem_map]
    grind

/-- The lines under the numbers get their status, if those that are there are free. -/
theorem setLineStatuses_eq_ok {ids : List Int} {status : LineStatus} {now : Instant} {n : Nat} :
    b.perform free (.setLineStatuses ids status now) = .ok (n, b') ↔
      n = (b.rows.lines.values.filter fun l => ids.contains l.id).length ∧
        (∀ id ∈ ids, ∀ l, b.rows.lines.get? id = some l → free (.line id)) ∧
        b' = { b with rows := b.rows.setLines (fun l => ids.contains l.id) status now } := by
  simp only [perform, bind_eq_ok, demandEach_eq_ok, pure_eq_ok, Prod.mk.injEq, List.mem_filter,
    Option.isSome_iff_exists]
  grind

/-- The open lines that are selected are cancelled, if all of them are free. -/
theorem cancelWhere_eq_ok {p : Line → Bool} {by_ : String} {reason : CancelReason} {now : Instant}
    {n : Nat} : b.cancelWhere free p by_ reason now = .ok (n, b') ↔
      n = (b.rows.lines.values.filter fun l => l.isPending && p l).length ∧
        (∀ l ∈ b.rows.lines.values, l.isPending → p l → free (.line l.id)) ∧
        b' = { b with rows := b.rows.cancel p by_ reason now } := by
  simp only [cancelWhere, bind_eq_ok, demandEach_eq_ok, pure_eq_ok, Prod.mk.injEq,
    List.forall_mem_map, List.mem_filter]
  grind

/-- The requests under the numbers get their status, if those that are there are free. -/
theorem setRequestStatuses_eq_ok {ids : List Int} {status : RequestStatus} {now : Instant} {n : Nat} :
    b.perform free (.setRequestStatuses ids status now) = .ok (n, b') ↔
      n = (b.rows.requests.values.filter fun r => ids.contains r.id).length ∧
        (∀ id ∈ ids, ∀ r, b.rows.requests.get? id = some r → free (.request id)) ∧
        b' = { b with rows := b.rows.setRequests (fun r => ids.contains r.id) status now } := by
  simp only [perform, bind_eq_ok, demandEach_eq_ok, pure_eq_ok, Prod.mk.injEq, List.mem_filter,
    Option.isSome_iff_exists]
  grind

/-- As many are claimed as the limit allows of the open and free requests whose rate reaches the
bound. -/
theorem claimAboveRate_eq_ok {rate : Decimal} {limit : Int} {rs : List Request} :
    b.perform free (.claimAboveRate rate limit) = .ok (rs, b') ↔
      rs = (b.claimable free fun r => rate ≤ r.loanRate).take limit.toNat ∧ b' = b := by
  simp only [perform, Except.ok.injEq, Prod.mk.injEq]
  grind

/-- All open and free requests for the symbol are claimed. -/
theorem claimBySymbol_eq_ok {symbol : Int} {rs : List Request} :
    b.perform free (.claimBySymbol symbol) = .ok (rs, b') ↔
      rs = b.claimable free (fun r => r.symbol == symbol) ∧ b' = b := by
  simp only [perform, Except.ok.injEq, Prod.mk.injEq]
  grind

/-- A request can be claimed if it is open, free and selected. -/
theorem mem_claimable {p : Request → Bool} {r : Request} :
    r ∈ b.claimable free p ↔
      r ∈ b.rows.requests.values ∧ r.isPending ∧ p r ∧ free (.request r.id) := by
  simp only [claimable, List.mem_filter, Bool.and_eq_true]
  grind

/-- A request is deleted if it is there and free, and all of its lines are free. -/
theorem deleteRequest_eq_ok {id : Int} {u : Unit} :
    b.perform free (.deleteRequest id) = .ok (u, b') ↔
      (∃ r, b.rows.requests.get? id = some r) ∧ free (.request id) ∧
        (∀ l ∈ b.rows.lines.values, l.request = id → free (.line l.id)) ∧
        b' = { b with rows := b.rows.removeRequest id } := by
  simp only [perform, bind_eq_ok, demand_eq_ok, request_eq_ok, pure_eq_ok, Prod.mk.injEq,
    List.forall_mem_singleton, List.forall_mem_map, List.mem_filter, beq_iff_eq]
  grind

/-! ### Offers, lines and sheets -/

/-- An offer is created under the next number, for a request that is there. -/
theorem createOffer_eq_ok {d : OfferDraft} {now : Instant} {o : Offer} :
    b.perform free (.createOffer d now) = .ok (o, b') ↔
      (∃ r, b.rows.requests.get? d.request = some r) ∧ o = d.toOffer (b.last + 1) now ∧
        b' = ⟨b.rows.putOffer o, b.last + 1⟩ := by
  simp only [perform, bind_eq_ok, request_eq_ok, pure_eq_ok, Prod.mk.injEq]
  grind

/-- Lines are created under consecutive numbers, all of which have to be free. -/
theorem addLines_eq_ok {offer req : Int} {now : Instant} : ∀ {ds : List LineDraft} {b b' : Book}
    {ls : List Line}, addLines free offer req now ds b = .ok (ls, b') ↔
      ls = LineDraft.toLines offer req now (b.last + 1) ds ∧
        (∀ l ∈ ls, free (.line l.id) = true) ∧
        b' = ⟨ls.foldl Rows.putLine b.rows, b.last + ds.length⟩
  | [], b, b', ls => by
    simp only [addLines, Except.ok.injEq, Prod.mk.injEq, LineDraft.toLines]
    constructor
    · rintro ⟨rfl, rfl⟩
      simp
    · rintro ⟨rfl, -, rfl⟩
      simp
  | d :: ds, b, b', ls => by
    have hlen : b.last + 1 + (ds.length : Int) = b.last + ((d :: ds).length : Nat) := by
      rw [List.length_cons, Int.natCast_succ, Int.add_assoc, Int.add_comm 1]
    simp only [addLines, bind_eq_ok, demand_eq_ok, List.forall_mem_singleton, pure_eq_ok,
      LineDraft.toLines]
    constructor
    · rintro ⟨_, hfree, ⟨ls', c⟩, hrest, heq⟩
      obtain ⟨rfl, hall, rfl⟩ := addLines_eq_ok.1 hrest
      obtain ⟨rfl, rfl⟩ := Prod.mk.inj heq
      refine ⟨rfl, fun l hl => ?_, ?_⟩
      · rcases List.mem_cons.1 hl with rfl | hl
        · exact hfree
        · exact hall l hl
      · rw [List.foldl_cons, ← hlen]
    · rintro ⟨rfl, hall, rfl⟩
      refine ⟨(), hall _ List.mem_cons_self, (_, _), addLines_eq_ok.2
        ⟨rfl, fun l hl => hall l (List.mem_cons_of_mem _ hl), rfl⟩, ?_⟩
      rw [List.foldl_cons, ← hlen]

/-- Lines of an offer are created under consecutive numbers, all of which have to be free. -/
theorem createLines_eq_ok {offer req : Int} {now : Instant} {ds : List LineDraft}
    {ls : List Line} :
    b.perform free (.createLines offer req ds now) = .ok (ls, b') ↔
      ls = LineDraft.toLines offer req now (b.last + 1) ds ∧
        (∀ l ∈ ls, free (.line l.id) = true) ∧
        b' = ⟨ls.foldl Rows.putLine b.rows, b.last + ds.length⟩ := addLines_eq_ok

/-- The offers for a request come newest first. -/
theorem offersOfRequest_eq_ok {id : Int} {os : List Offer} :
    b.perform free (.offersOfRequest id) = .ok (os, b') ↔
      os = newestFirst (fun o => (o.createdAt, o.id))
        (b.rows.offers.values.filter (·.request == id)) ∧ b' = b := by
  simp only [perform, Except.ok.injEq, Prod.mk.injEq]
  grind

/-- The lines of requests come newest first. -/
theorem linesOfRequests_eq_ok {ids : List Int} {ls : List Line} :
    b.perform free (.linesOfRequests ids) = .ok (ls, b') ↔
      ls = newestFirst (fun l => (l.createdAt, l.id))
        (b.rows.lines.values.filter fun l => ids.contains l.request) ∧ b' = b := by
  simp only [perform, Except.ok.injEq, Prod.mk.injEq]
  grind

/-- A line is read if it stands under the number. -/
theorem getLine_eq_ok {id : Int} {l : Line} :
    b.perform free (.getLine id) = .ok (l, b') ↔ b.rows.lines.get? id = some l ∧ b' = b := by
  simp only [perform, bind_eq_ok, found_eq_ok, pure_eq_ok, Prod.mk.injEq]
  grind

/-- The offers that have expired are read from the rows. -/
theorem expiredOffers_eq_ok {now : Instant} {os : List Offer} :
    b.perform free (.expiredOffers now) = .ok (os, b') ↔
      os = Store.expiredOffers b.rows now ∧ b' = b := by
  simp only [perform, Except.ok.injEq, Prod.mk.injEq]
  grind

/-- A line gets its contract if it is there and free. -/
theorem attachContract_eq_ok {line contract : Int} {now : Instant} {u : Unit} :
    b.perform free (.attachContract line contract now) = .ok (u, b') ↔
      (∃ l, b.rows.lines.get? line = some l) ∧ free (.line line) ∧
        b' = { b with rows := b.rows.attach line contract now } := by
  simp only [perform, bind_eq_ok, demand_eq_ok, found_eq_ok, pure_eq_ok, Prod.mk.injEq,
    List.forall_mem_singleton]
  grind

/-- A sheet is created under the next number, for a request that is there. -/
theorem createSheet_eq_ok {req : Int} {by_ : String} {terms : Json} {now : Instant} {s : Sheet} :
    b.perform free (.createSheet req by_ terms now) = .ok (s, b') ↔
      (∃ r, b.rows.requests.get? req = some r) ∧ s = ⟨b.last + 1, req, by_, terms, now⟩ ∧
        b' = ⟨b.rows.putSheet s, b.last + 1⟩ := by
  simp only [perform, bind_eq_ok, request_eq_ok, pure_eq_ok, Prod.mk.injEq]
  grind

/-! ### Contracts, ceilings and job records -/

/-- A contract is created under the next number, if there is none for its line. -/
theorem createContract_eq_ok {d : ContractDraft} {now : Instant} {k : Contract} :
    b.perform free (.createContract d now) = .ok (k, b') ↔
      (∀ k ∈ b.rows.contracts.values, k.line ≠ d.line) ∧ k = d.toContract (b.last + 1) now ∧
        b' = ⟨b.rows.putContract k, b.last + 1⟩ := by
  simp only [perform]
  split
  · rename_i h
    simp only [List.any_eq_true, beq_iff_eq] at h
    grind
  · rename_i h
    simp only [List.any_eq_true, beq_iff_eq, Except.ok.injEq, Prod.mk.injEq] at h ⊢
    grind

/-- A contract is read if it stands under the number. -/
theorem getContract_eq_ok {id : Int} {k : Contract} :
    b.perform free (.getContract id) = .ok (k, b') ↔
      b.rows.contracts.get? id = some k ∧ b' = b := by
  simp only [perform, bind_eq_ok, found_eq_ok, pure_eq_ok, Prod.mk.injEq]
  grind

/-- The contract for a line is the first that is found, if there is one. -/
theorem contractOfLine_eq_ok {line : Int} {k? : Option Contract} :
    b.perform free (.contractOfLine line) = .ok (k?, b') ↔
      k? = b.rows.contracts.values.find? (·.line == line) ∧ b' = b := by
  simp only [perform, Except.ok.injEq, Prod.mk.injEq]
  grind

/-- The end of a contract's guarantee is set if the contract is there. -/
theorem setGuaranteeEnd_eq_ok {id : Int} {at_ : Instant} {k : Contract} :
    b.perform free (.setGuaranteeEnd id at_) = .ok (k, b') ↔
      (∃ k₀, b.rows.contracts.get? id = some k₀ ∧ k = { k₀ with guaranteeEndedAt := some at_ }) ∧
        b' = { b with rows := b.rows.endGuarantee id at_ } := by
  simp only [perform, bind_eq_ok, found_eq_ok, pure_eq_ok, Prod.mk.injEq]
  grind

/-- A ceiling is created under the next number. -/
theorem createCeiling_eq_ok {rate : Decimal} {affectedFrom now : Instant} {c : Ceiling} :
    b.perform free (.createCeiling rate affectedFrom now) = .ok (c, b') ↔
      c = ⟨b.last + 1, rate, affectedFrom, now⟩ ∧ b' = ⟨b.rows.putCeiling c, b.last + 1⟩ := by
  simp only [perform, Except.ok.injEq, Prod.mk.injEq]
  grind

/-- A job record is created under the next number. -/
theorem createJob_eq_ok {e : JobEntry} {now : Instant} {j : JobRecord} :
    b.perform free (.createJob e now) = .ok (j, b') ↔
      j = e.toRecord (b.last + 1) now ∧ b' = ⟨b.rows.putJob j, b.last + 1⟩ := by
  simp only [perform, Except.ok.injEq, Prod.mk.injEq]
  grind

end Book
end LoanDesk
