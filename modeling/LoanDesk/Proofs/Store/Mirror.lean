/-
# What a transaction gets is what its book says

Every call of a transaction gives what it gives on the book of the transaction
(`Store.mirrors_act`). So a call that answers leaves the book that is said there, and a call that fails
fails with the same error (`Store.perform_eq`).
-/

import LoanDesk.Proofs.Store.Mirror.Writes

namespace LoanDesk
namespace Store

variable {tx : TxId} {α β : Type}

/-! ### Whole calls -/

/-- A new number is taken and what is made of it is staged. -/
theorem mirrors_create {a : Int → α} {f : Int → Changes → Changes} {g : Int → Rows → Rows}
    (hfg : ∀ id (rows : Rows) c, rows.overlay (f id c) = g id (rows.overlay c))
    (hg : ∀ id (rows : Rows), rows.Keyed → (g id rows).Keyed) :
    Mirrors tx (takeId >>= fun id => stages tx (f id) >>= fun _ => pure (a id)) fun _ b =>
      .ok (a (b.last + 1), ⟨g (b.last + 1) b.rows, b.last + 1⟩) :=
  mirrors_takeId.bind fun id => (mirrors_stages (hfg id) (hg id)).bind fun _ => mirrors_pure (a id)

/-- Requests that are selected and written back are changed where they stand. -/
theorem setRequests_eq {rows : Rows} (h : rows.Keyed) (p : Request → Bool) {rs : List Request}
    (hrs : ∀ r, r ∈ rs ↔ rows.requests.get? r.id = some r ∧ p r) (status : RequestStatus)
    (now : Instant) :
    (rs.map fun r => { r with status, updatedAt := now }).foldl Rows.putRequest rows =
      rows.setRequests p status now := by
  rw [foldl_putRequest, Rows.setRequests,
    Table.foldl_insert h.requests hrs (f := fun r => { r with status, updatedAt := now })
      fun _ => rfl]

/-- Lines that are selected and written back are changed where they stand. -/
theorem setLines_eq {rows : Rows} (h : rows.Keyed) (p : Line → Bool) {f : Line → Line}
    (hf : ∀ l, (f l).id = l.id) {ls : List Line}
    (hls : ∀ l, l ∈ ls ↔ rows.lines.get? l.id = some l ∧ p l) :
    (ls.map f).foldl Rows.putLine rows =
      { rows with lines := rows.lines.map fun l => if p l then f l else l } := by
  rw [foldl_putLine, Table.foldl_insert h.lines hls hf]

/-- The only row that stands under a number. -/
theorem mem_singleton_iff {key : α → Int} {t : Table α} {a : α} (h : t.get? (key a) = some a)
    (b : α) : b ∈ [a] ↔ t.get? (key b) = some b ∧ (key b == key a) = true := by
  rw [List.mem_singleton]
  constructor
  · rintro rfl
    exact ⟨h, by simp⟩
  · rintro ⟨hb, hkey⟩
    rw [eq_of_beq hkey, h] at hb
    exact (Option.some.inj hb).symm

/-- Setting the status of a request sets it in the book. -/
theorem mirrors_setRequestStatus (id : Int) (status : RequestStatus) (now : Instant) :
    Mirrors tx (act tx (.setRequestStatus id status now)) fun free b =>
      b.perform free (.setRequestStatus id status now) := by
  have h : Mirrors tx (act tx (.setRequestStatus id status now)) _ :=
    (checks_request id).bind fun r => mirrors_writeRequest { r with status, updatedAt := now }
  refine h.congr fun free b hk => ?_
  change (b.request id >>= _) = (b.request id >>= _)
  unfold Book.request
  cases hget : b.rows.requests.get? id with
  | none => rfl
  | some r =>
    obtain rfl : r.id = id := hk.requests id r hget
    have hrows := setRequests_eq hk (·.id == r.id) (mem_singleton_iff hget) status now
    change (Book.demand free [.request r.id] _ >>= _) = (Book.demand free [.request r.id] _ >>= _)
    cases Book.demand free [.request r.id] (.locked "request" r.id) with
    | error e => rfl
    | ok u =>
      rw [← hrows]
      rfl

/-- Setting the status of requests sets it in the book. -/
theorem mirrors_setRequestStatuses (ids : List Int) (status : RequestStatus) (now : Instant) :
    Mirrors tx (act tx (.setRequestStatuses ids status now)) fun free b =>
      b.perform free (.setRequestStatuses ids status now) := by
  have h : Mirrors tx (act tx (.setRequestStatuses ids status now)) _ :=
    mirrors_changeEach (f := fun r => { r with status, updatedAt := now }) mirrors_writeRequest
      (fun _ => rfl) (fun _ hk => hk.requests) ids
  refine h.congr fun free b hk => ?_
  have hmem : ∀ r, r ∈ b.rows.requests.pick ids ↔
      b.rows.requests.get? r.id = some r ∧ ids.contains r.id := fun r => by
    rw [hk.requests.mem_pick, List.contains_iff_mem]
  rw [setRequests_eq hk (fun r => ids.contains r.id) hmem status now]
  rfl

/-- Setting the status of lines sets it in the book. -/
theorem mirrors_setLineStatuses (ids : List Int) (status : LineStatus) (now : Instant) :
    Mirrors tx (act tx (.setLineStatuses ids status now)) fun free b =>
      b.perform free (.setLineStatuses ids status now) := by
  have h : Mirrors tx (act tx (.setLineStatuses ids status now)) _ :=
    mirrors_changeEach (f := fun l => l.withStatus status now) mirrors_writeLine
      (fun _ => rfl) (fun _ hk => hk.lines) ids
  refine h.congr fun free b hk => ?_
  have hmem : ∀ l, l ∈ b.rows.lines.pick ids ↔
      b.rows.lines.get? l.id = some l ∧ ids.contains l.id := fun l => by
    rw [hk.lines.mem_pick, List.contains_iff_mem]
  rw [setLines_eq hk (fun l => ids.contains l.id) (f := fun l => l.withStatus status now)
    (fun _ => rfl) hmem]
  rfl

/-- Attaching a contract to a line attaches it in the book. -/
theorem mirrors_attachContract (line contract : Int) (now : Instant) :
    Mirrors tx (act tx (.attachContract line contract now)) fun free b =>
      b.perform free (.attachContract line contract now) := by
  have h : Mirrors tx (act tx (.attachContract line contract now)) _ :=
    (checks_asks fun rows => rows.lines.get? line).bind fun l? =>
      (checks_orError (.notFound "offer interest" line) l?).bind fun l =>
        mirrors_writeLine (l.withContract contract now)
  refine h.congr fun free b hk => ?_
  change (Book.found _ (b.rows.lines.get? line) >>= _) =
    (Book.found _ (b.rows.lines.get? line) >>= _)
  cases hget : b.rows.lines.get? line with
  | none => rfl
  | some l =>
    obtain rfl : l.id = line := hk.lines line l hget
    have hrows := setLines_eq hk (·.id == l.id) (f := fun l => l.withContract contract now)
      (fun _ => rfl) (mem_singleton_iff hget)
    change (Book.demand free [.line l.id] (.locked "offer interest" l.id) >>= _) =
      (Book.demand free [.line l.id] (.locked "offer interest" l.id) >>= _)
    cases Book.demand free [.line l.id] (.locked "offer interest" l.id) with
    | error e => rfl
    | ok u =>
      rw [Rows.attach, ← hrows]
      rfl

/-- Setting the end of a guarantee sets it in the book. -/
theorem mirrors_setGuaranteeEnd (id : Int) (at_ : Instant) :
    Mirrors tx (act tx (.setGuaranteeEnd id at_)) fun free b =>
      b.perform free (.setGuaranteeEnd id at_) := by
  intro s hk
  change Agrees tx _ ((orError _ ((s.view tx).contracts.get? id) >>= _) s)
    (Book.found _ ((s.view tx).contracts.get? id) >>= _)
  cases hget : (s.view tx).contracts.get? id with
  | none => exact rfl
  | some k =>
    obtain rfl : k.id = id := hk.contracts id k hget
    have hstage : Mirrors tx (stages tx fun c => { c with
        contracts := c.contracts.insert k.id (some { k with guaranteeEndedAt := some at_ }) }) _ :=
      mirrors_stages (g := fun rows => rows.putContract { k with guaranteeEndedAt := some at_ })
        (fun rows c => by simp [Rows.overlay, Rows.putContract, Table.overlay_insert_some])
        fun _ h => h.putContract _
    have hrows : (s.view tx).endGuarantee k.id at_ =
        (s.view tx).putContract { k with guaranteeEndedAt := some at_ } := by
      have h := Table.foldl_insert hk.contracts (mem_singleton_iff hget)
        (f := fun k => { k with guaranteeEndedAt := some at_ }) fun _ => rfl
      rw [Rows.endGuarantee, ← h]
      rfl
    have hs := (hstage.bind fun _ => mirrors_pure { k with guaranteeEndedAt := some at_ }) s hk
    change Agrees tx _ _ (.ok (_, ⟨(s.view tx).endGuarantee k.id at_, s.lastId⟩))
    rw [hrows]
    exact hs

/-- Creating a contract creates it in the book. -/
theorem mirrors_createContract (d : ContractDraft) (now : Instant) :
    Mirrors tx (act tx (.createContract d now)) fun free b =>
      b.perform free (.createContract d now) := by
  intro s hk
  have hcreate := @mirrors_create tx _ (fun id => d.toContract id now)
    (fun id c => { c with contracts := c.contracts.insert id (some (d.toContract id now)) })
    (fun id rows => rows.putContract (d.toContract id now))
    (fun id rows c => by simp [Rows.overlay, Rows.putContract, Table.overlay_insert_some,
      ContractDraft.toContract])
    (fun _ _ h => h.putContract _) s hk
  change Agrees tx _ ((if (s.view tx).contracts.values.any (·.line == d.line) then _ else _ :
    Act Contract) s) (if (s.view tx).contracts.values.any (·.line == d.line) then _ else _)
  split
  · exact rfl
  · exact hcreate

/-- Every call gives what it gives on the book of its transaction. -/
theorem mirrors_act : ∀ c : Call, Mirrors tx (act tx c) fun free b => b.perform free c
  | .createRequest d now => by
    have h : Mirrors tx (act tx (.createRequest d now)) _ := mirrors_takeId.bind fun id =>
      (mirrors_writeRequest (d.toRequest id now)).bind fun _ => mirrors_pure (d.toRequest id now)
    refine h.congr fun free b _ => ?_
    change (Book.demand free [.request (b.last + 1)] (.locked "request" (b.last + 1)) >>= _) >>= _ =
      (Book.demand free [.request (b.last + 1)] (.locked "request" (b.last + 1)) >>= _)
    cases Book.demand free [.request (b.last + 1)] (.locked "request" (b.last + 1)) <;> rfl
  | .getRequest id => (checks_request id).mirrors
  | .lockRequest id mode => (checks_request id).bind fun r =>
      (checks_lockOr [.request id] _).bind fun _ => mirrors_pure r
  | .setRequestStatus id status now => mirrors_setRequestStatus id status now
  | .setRequestStatuses ids status now => mirrors_setRequestStatuses ids status now
  | .listRequests _ _ => fun _ hk => ⟨rfl, rfl, rfl, hk⟩
  | .countRequests _ => fun _ hk => ⟨rfl, rfl, rfl, hk⟩
  | .claimAboveRate rate limit => fun s hk => mirrors_claim ((s.view tx).requests.values.filter
      fun r => r.isPending && rate ≤ r.loanRate) (some limit) s hk
  | .claimBySymbol symbol => fun s hk => mirrors_claim ((s.view tx).requests.values.filter
      fun r => r.isPending && r.symbol == symbol) none s hk
  | .deleteRequest id => mirrors_deleteRequest id
  | .createOffer d now => (checks_request d.request).bind fun _ =>
      mirrors_create (a := fun id => d.toOffer id now)
        (g := fun id rows => rows.putOffer (d.toOffer id now))
        (fun id rows c => by simp [Rows.overlay, Rows.putOffer, Table.overlay_insert_some])
        fun _ _ h => h.putOffer _
  | .createLines offer req ds now => mirrors_createLines offer req now ds
  | .offerWithRequest id => by
    have h : Mirrors tx (act tx (.offerWithRequest id)) _ :=
      (checks_asks fun rows => rows.offers.get? id).bind fun o? =>
        (checks_orError (.notFound "offer" id) o?).bind fun o =>
          (checks_request o.request).bind fun r => mirrors_pure (o, r)
    exact h
  | .offersOfRequest _ => fun _ hk => ⟨rfl, rfl, rfl, hk⟩
  | .offersOfInvestor _ => fun _ hk => ⟨rfl, rfl, rfl, hk⟩
  | .getLine id => (checks_lookup _ fun rows => rows.lines.get? id).mirrors
  | .linesOfRequests _ => fun _ hk => ⟨rfl, rfl, rfl, hk⟩
  | .expiredOffers _ => fun _ hk => ⟨rfl, rfl, rfl, hk⟩
  | .lockLinesOfOffer offer => by
    intro s hk
    change Agrees tx _ ((if ((s.view tx).lines.values.filter (·.offer == offer)).isEmpty then _
      else _ : Act (List Line)) s)
      (if ((s.view tx).lines.values.filter (·.offer == offer)).isEmpty then _ else _)
    split
    · exact rfl
    · exact ((checks_lockOr _ (.locked "offer" offer)).bind fun _ => mirrors_pure _) s hk
  | .cancelByOffer offer by_ reason now => mirrors_cancelWhere (·.offer == offer) by_ reason now
  | .cancelExpired offers by_ now =>
      mirrors_cancelWhere (fun l => offers.contains l.offer) by_ .expired now
  | .cancelLines ids by_ reason now =>
      mirrors_cancelWhere (fun l => ids.contains l.id) by_ reason now
  | .cancelByRequests ids by_ reason now =>
      mirrors_cancelWhere (fun l => ids.contains l.request) by_ reason now
  | .setLineStatuses ids status now => mirrors_setLineStatuses ids status now
  | .attachContract line contract now => mirrors_attachContract line contract now
  | .createSheet req by_ terms now => (checks_request req).bind fun _ =>
      mirrors_create (a := fun id => (⟨id, req, by_, terms, now⟩ : Sheet))
        (g := fun id rows => rows.putSheet ⟨id, req, by_, terms, now⟩)
        (fun id rows c => by simp [Rows.overlay, Rows.putSheet, Table.overlay_insert_some])
        fun _ _ h => h.putSheet _
  | .createContract d now => mirrors_createContract d now
  | .getContract id => (checks_lookup _ fun rows => rows.contracts.get? id).mirrors
  | .contractOfLine _ => fun _ hk => ⟨rfl, rfl, rfl, hk⟩
  | .setGuaranteeEnd id at_ => mirrors_setGuaranteeEnd id at_
  | .currentCeiling _ => fun _ hk => ⟨rfl, rfl, rfl, hk⟩
  | .createCeiling rate affectedFrom now =>
      mirrors_create (a := fun id => (⟨id, rate, affectedFrom, now⟩ : Ceiling))
        (g := fun id rows => rows.putCeiling ⟨id, rate, affectedFrom, now⟩)
        (fun id rows c => by simp [Rows.overlay, Rows.putCeiling, Table.overlay_insert_some])
        fun _ _ h => h.putCeiling _
  | .createJob e now =>
      mirrors_create (a := fun id => e.toRecord id now)
        (g := fun id rows => rows.putJob (e.toRecord id now))
        (fun id rows c => by simp [Rows.overlay, Rows.putJob, Table.overlay_insert_some])
        fun _ _ h => h.putJob _
  | .listJobs _ _ => fun _ hk => ⟨rfl, rfl, rfl, hk⟩

/-- **A transaction gets what its book says.**  A call answers what it answers on the book of its
transaction, with the rows that are free to it, and after an answer the transaction sees the book
that the call leaves. -/
theorem perform_eq {s : Store} (h : (s.view tx).Keyed) (c : Call) :
    Agrees tx (s.locks.isFree tx) (s.perform tx c)
      ((s.book tx).perform (s.locks.isFree tx) c) :=
  mirrors_act c s h

/-- **A call that succeeds gives what it gives on the book**, and leaves the transaction with that
book and the same rows free. -/
theorem perform_ok {s t : Store} {c : Call} {a : c.Answer} (h : (s.view tx).Keyed)
    (hp : s.perform tx c = (.ok a, t)) :
    (s.book tx).perform (s.locks.isFree tx) c = .ok (a, t.book tx) ∧
      t.locks.isFree tx = s.locks.isFree tx ∧ (t.view tx).Keyed := by
  have hs := perform_eq h c
  rw [hp] at hs
  cases hb : (s.book tx).perform (s.locks.isFree tx) c with
  | ok ab =>
    rw [hb] at hs
    obtain ⟨rfl, hbook, hfree, hkeyed⟩ := hs
    refine ⟨by rw [hbook], hfree, ?_⟩
    rw [← hbook] at hkeyed
    exact hkeyed
  | error e =>
    rw [hb] at hs
    exact hs.elim

/-- **A call that fails fails on the book**, for the same reason. -/
theorem perform_error {s t : Store} {c : Call} {e : StoreError} (h : (s.view tx).Keyed)
    (hp : s.perform tx c = (.error e, t)) :
    (s.book tx).perform (s.locks.isFree tx) c = .error e := by
  have hs := perform_eq h c
  rw [hp] at hs
  cases hb : (s.book tx).perform (s.locks.isFree tx) c with
  | ok ab =>
    rw [hb] at hs
    exact hs.elim
  | error e' =>
    rw [hb] at hs
    rw [show e = e' from hs]

/-- A call answers what its book has for it. -/
theorem perform_of_book {s : Store} (h : (s.view tx).Keyed) {c : Call}
    {a : c.Answer} {b : Book} (hb : (s.book tx).perform (s.locks.isFree tx) c = .ok (a, b)) :
    ∃ t, s.perform tx c = (.ok a, t) ∧ t.book tx = b ∧ (t.view tx).Keyed := by
  cases hp : s.perform tx c with
  | mk x t =>
    cases x with
    | error e =>
      rw [perform_error h hp] at hb
      cases hb
    | ok a' =>
      obtain ⟨hb', -, hk⟩ := perform_ok h hp
      rw [hb] at hb'
      cases hb'
      exact ⟨t, rfl, rfl, hk⟩

end Store
end LoanDesk
