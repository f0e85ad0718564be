/-
# A book

What one transaction sees of a store is a book: rows, and the last number given out. `Book.perform`
is the meaning of the calls on a book, in which there is no staging and nobody else: where a row
cannot be taken the call says so at once, and a call that cancels or changes rows changes them where
they stand.

`Store.perform_eq` says that this is what a transaction gets: the answer is that on its book, with
the rows that are free to it, and after a call that succeeds it sees the book that the call leaves.
-/

import LoanDesk.Proofs.Store.Orderly

namespace LoanDesk

/-! ### Rows -/

namespace Rows

/-- Every row stands under its own number. -/
structure Keyed (rows : Rows) : Prop where
  requests : rows.requests.Keyed Request.id
  offers : rows.offers.Keyed Offer.id
  lines : rows.lines.Keyed Line.id
  contracts : rows.contracts.Keyed Contract.id
  sheets : rows.sheets.Keyed Sheet.id
  ceilings : rows.ceilings.Keyed Ceiling.id
  jobs : rows.jobs.Keyed JobRecord.id

/-- Where there are no rows, all stand under their own numbers. -/
theorem keyed_empty : Keyed empty :=
  ⟨Table.keyed_empty _, Table.keyed_empty _, Table.keyed_empty _, Table.keyed_empty _,
    Table.keyed_empty _, Table.keyed_empty _, Table.keyed_empty _⟩

/-- A request is stored under its number. -/
def putRequest (rows : Rows) (r : Request) : Rows :=
  { rows with requests := rows.requests.insert r.id r }

/-- An offer is stored under its number. -/
def putOffer (rows : Rows) (o : Offer) : Rows := { rows with offers := rows.offers.insert o.id o }

/-- A line is stored under its number. -/
def putLine (rows : Rows) (l : Line) : Rows := { rows with lines := rows.lines.insert l.id l }

/-- A contract is stored under its number. -/
def putContract (rows : Rows) (k : Contract) : Rows :=
  { rows with contracts := rows.contracts.insert k.id k }

/-- A sheet is stored under its number. -/
def putSheet (rows : Rows) (s : Sheet) : Rows := { rows with sheets := rows.sheets.insert s.id s }

/-- A ceiling is stored under its number. -/
def putCeiling (rows : Rows) (c : Ceiling) : Rows :=
  { rows with ceilings := rows.ceilings.insert c.id c }

/-- A job record is stored under its number. -/
def putJob (rows : Rows) (j : JobRecord) : Rows := { rows with jobs := rows.jobs.insert j.id j }

/-- The requests that are selected get a status. -/
def setRequests (rows : Rows) (p : Request → Bool) (status : RequestStatus) (now : Instant) : Rows :=
  { rows with
    requests := rows.requests.map fun r => if p r then { r with status, updatedAt := now } else r }

/-- The lines that are selected get a status. -/
def setLines (rows : Rows) (p : Line → Bool) (status : LineStatus) (now : Instant) : Rows :=
  { rows with lines := rows.lines.map fun l => if p l then l.withStatus status now else l }

/-- The pending lines that are selected are cancelled. -/
def cancel (rows : Rows) (p : Line → Bool) (by_ : String) (reason : CancelReason)
    (now : Instant) : Rows :=
  { rows with
    lines := rows.lines.map fun l => if l.isPending && p l then l.cancelled by_ reason now else l }

/-- A line gets its contract. -/
def attach (rows : Rows) (line contract : Int) (now : Instant) : Rows :=
  { rows with
    lines := rows.lines.map fun l => if l.id == line then l.withContract contract now else l }

/-- The end of a contract's guarantee is set. -/
def endGuarantee (rows : Rows) (contract : Int) (at_ : Instant) : Rows :=
  { rows with contracts := rows.contracts.map fun k =>
      if k.id == contract then { k with guaranteeEndedAt := some at_ } else k }

/-- A request goes, and with it its offers, lines and sheets. -/
def removeRequest (rows : Rows) (id : Int) : Rows :=
  { rows with
    requests := rows.requests.filter (·.id != id)
    offers := rows.offers.filter (·.request != id)
    lines := rows.lines.filter (·.request != id)
    sheets := rows.sheets.filter (·.request != id) }

namespace Keyed

variable {rows : Rows}

/-- A request that is stored stands under its number. -/
theorem putRequest (h : rows.Keyed) (r : Request) : (rows.putRequest r).Keyed :=
  { h with requests := h.requests.insert r }

/-- An offer that is stored stands under its number. -/
theorem putOffer (h : rows.Keyed) (o : Offer) : (rows.putOffer o).Keyed :=
  { h with offers := h.offers.insert o }

/-- A line that is stored stands under its number. -/
theorem putLine (h : rows.Keyed) (l : Line) : (rows.putLine l).Keyed :=
  { h with lines := h.lines.insert l }

/-- A contract that is stored stands under its number. -/
theorem putContract (h : rows.Keyed) (k : Contract) : (rows.putContract k).Keyed :=
  { h with contracts := h.contracts.insert k }

/-- A sheet that is stored stands under its number. -/
theorem putSheet (h : rows.Keyed) (s : Sheet) : (rows.putSheet s).Keyed :=
  { h with sheets := h.sheets.insert s }

/-- A ceiling that is stored stands under its number. -/
theorem putCeiling (h : rows.Keyed) (c : Ceiling) : (rows.putCeiling c).Keyed :=
  { h with ceilings := h.ceilings.insert c }

/-- A job record that is stored stands under its number. -/
theorem putJob (h : rows.Keyed) (j : JobRecord) : (rows.putJob j).Keyed :=
  { h with jobs := h.jobs.insert j }

/-- Requests keep their numbers when their status changes. -/
theorem setRequests (h : rows.Keyed) (p : Request → Bool) (status : RequestStatus)
    (now : Instant) : (rows.setRequests p status now).Keyed :=
  { h with requests := h.requests.map fun r => by split <;> rfl }

/-- Lines keep their numbers when they are cancelled. -/
theorem cancel (h : rows.Keyed) (p : Line → Bool) (by_ : String) (reason : CancelReason)
    (now : Instant) : (rows.cancel p by_ reason now).Keyed :=
  { h with lines := h.lines.map fun l => by split <;> rfl }

/-- Contracts keep their numbers when their guarantee ends. -/
theorem endGuarantee (h : rows.Keyed) (contract : Int) (at_ : Instant) :
    (rows.endGuarantee contract at_).Keyed :=
  { h with contracts := h.contracts.map fun k => by split <;> rfl }

/-- The rows that a deletion leaves stand where they stood. -/
theorem removeRequest (h : rows.Keyed) (id : Int) : (rows.removeRequest id).Keyed :=
  { h with
    requests := h.requests.filter _
    offers := h.offers.filter _
    lines := h.lines.filter _
    sheets := h.sheets.filter _ }

end Keyed

/-- Where one line gets a status, the others are as they were. -/
theorem get?_setLines_one {rows : Rows} (hk : rows.lines.Keyed Line.id) {x : Line}
    (hx : rows.lines.get? x.id = some x) {status : LineStatus} {now : Instant} {i : Int} {l : Line} :
    (rows.setLines (fun l => [x.id].contains l.id) status now).lines.get? i = some l ↔
      i = x.id ∧ l = x.withStatus status now ∨ i ≠ x.id ∧ rows.lines.get? i = some l :=
  hk.get?_change_one hx fun l => by simp

end Rows

/-! ### Books -/

/-- The rows that a transaction sees, and the last number given out. -/
structure Book where
  rows : Rows
  last : Int

/-- What a transaction sees. -/
def Store.book (s : Store) (tx : TxId) : Book := ⟨s.view tx, s.lastId⟩

/-- What is stored. -/
def Store.stored (s : Store) : Book := ⟨s.rows, s.lastId⟩

namespace Book

/-- Rows that are needed have to be free. -/
def demand (free : RowKey → Bool) (keys : List RowKey) (e : StoreError) : Except StoreError Unit :=
  if keys.all free then .ok () else .error e

/-- Rows that are written one after another have to be free; the first that is not is named. -/
def demandEach (free : RowKey → Bool) (key : Int → RowKey) (entity : String) (ids : List Int) :
    Except StoreError Unit :=
  match ids.find? fun id => !free (key id) with
  | some id => .error (.locked entity id)
  | none => .ok ()

/-- Something that was found, or an error. -/
def found {α : Type} (e : StoreError) : Option α → Except StoreError α
  | some a => .ok a
  | none => .error e

/-- The request under a number. -/
def request (b : Book) (id : Int) : Except StoreError Request :=
  found (.notFound "request" id) (b.rows.requests.get? id)

/-- The pending lines that are selected are cancelled, if all of them are free; their number. -/
def cancelWhere (free : RowKey → Bool) (b : Book) (p : Line → Bool) (by_ : String)
    (reason : CancelReason) (now : Instant) : Except StoreError (Nat × Book) := do
  let targets := b.rows.lines.values.filter fun l => l.isPending && p l
  demandEach free .line "offer interest" (targets.map (·.id))
  return (targets.length, { b with rows := b.rows.cancel p by_ reason now })

/-- Lines are stored under new numbers, one after another. -/
def addLines (free : RowKey → Bool) (offer request : Int) (now : Instant) :
    List LineDraft → Book → Except StoreError (List Line × Book)
  | [], b => .ok ([], b)
  | d :: ds, b => do
    let l := d.toLine (b.last + 1) offer request now
    demand free [.line l.id] (.locked "offer interest" l.id)
    let (ls, b) ← addLines free offer request now ds ⟨b.rows.putLine l, b.last + 1⟩
    return (l :: ls, b)

/-- The open requests that satisfy a condition and are free. -/
def claimable (free : RowKey → Bool) (b : Book) (p : Request → Bool) : List Request :=
  (b.rows.requests.values.filter fun r => r.isPending && p r).filter fun r => free (.request r.id)

/-- What a call does to a book where just some of the rows are free. -/
def perform (free : RowKey → Bool) (b : Book) :
    (c : Call) → Except StoreError (c.Answer × Book)
  | .createRequest d now => do
    let r := d.toRequest (b.last + 1) now
    demand free [.request r.id] (.locked "request" r.id)
    return (r, ⟨b.rows.putRequest r, b.last + 1⟩)
  | .getRequest id => do return (← b.request id, b)
  | .lockRequest id mode => do
    let r ← b.request id
    demand free [.request id] <| match mode with
      | .noWait => .locked "request" id
      | .skipLocked => .notFound "request" id
    return (r, b)
  | .setRequestStatus id status now => do
    let _ ← b.request id
    demand free [.request id] (.locked "request" id)
    return ((), { b with rows := b.rows.setRequests (·.id == id) status now })
  | .setRequestStatuses ids status now => do
    demandEach free .request "request" (ids.filter fun id => (b.rows.requests.get? id).isSome)
    return ((b.rows.requests.values.filter fun r => ids.contains r.id).length,
      { b with rows := b.rows.setRequests (fun r => ids.contains r.id) status now })
  | .listRequests f page => .ok (page.slice <| newestFirst (fun r => (r.createdAt, r.id)) <|
      b.rows.requests.values.filter f.accepts, b)
  | .countRequests f => .ok ((b.rows.requests.values.filter f.accepts).length, b)
  | .claimAboveRate rate limit =>
    .ok ((b.claimable free fun r => rate ≤ r.loanRate).take limit.toNat, b)
  | .claimBySymbol symbol => .ok (b.claimable free fun r => r.symbol == symbol, b)
  | .deleteRequest id => do
    let _ ← b.request id
    demand free [.request id] (.locked "request" id)
    let lines := b.rows.lines.values.filter (·.request == id)
    demand free (lines.map fun l => .line l.id) (.locked "request" id)
    return ((), { b with rows := b.rows.removeRequest id })
  | .createOffer d now => do
    let _ ← b.request d.request
    let o := d.toOffer (b.last + 1) now
    return (o, ⟨b.rows.putOffer o, b.last + 1⟩)
  | .createLines offer request ds now => addLines free offer request now ds b
  | .offerWithRequest id => do
    let o ← found (.notFound "offer" id) (b.rows.offers.get? id)
    return ((o, ← b.request o.request), b)
  | .offersOfRequest id => .ok (newestFirst (fun o => (o.createdAt, o.id))
      (b.rows.offers.values.filter (·.request == id)), b)
  | .offersOfInvestor investor => .ok (newestFirst (fun d => (d.offer.createdAt, d.offer.id))
      (b.rows.offers.values.filterMap (Store.details? b.rows investor)), b)
  | .getLine id => do
    return (← found (.notFound "offer interest" id) (b.rows.lines.get? id), b)
  | .linesOfRequests ids => .ok (newestFirst (fun l => (l.createdAt, l.id))
      (b.rows.lines.values.filter fun l => ids.contains l.request), b)
  | .expiredOffers now => .ok (Store.expiredOffers b.rows now, b)
  | .lockLinesOfOffer offer => do
    let ls := b.rows.lines.values.filter (·.offer == offer)
    if ls.isEmpty then .error (.notFound "offer" offer)
    else
      demand free (ls.map fun l => .line l.id) (.locked "offer" offer)
      return (ls, b)
  | .cancelByOffer offer by_ reason now => b.cancelWhere free (·.offer == offer) by_ reason now
  | .cancelExpired offers by_ now =>
    b.cancelWhere free (fun l => offers.contains l.offer) by_ .expired now
  | .cancelLines ids by_ reason now =>
    b.cancelWhere free (fun l => ids.contains l.id) by_ reason now
  | .cancelByRequests ids by_ reason now =>
    b.cancelWhere free (fun l => ids.contains l.request) by_ reason now
  | .setLineStatuses ids status now => do
    demandEach free .line "offer interest" (ids.filter fun id => (b.rows.lines.get? id).isSome)
    return ((b.rows.lines.values.filter fun l => ids.contains l.id).length,
      { b with rows := b.rows.setLines (fun l => ids.contains l.id) status now })
  | .attachContract line contract now => do
    let _ ← found (.notFound "offer interest" line) (b.rows.lines.get? line)
    demand free [.line line] (.locked "offer interest" line)
    return ((), { b with rows := b.rows.attach line contract now })
  | .createSheet req by_ terms now => do
    let _ ← b.request req
    let sheet : Sheet := ⟨b.last + 1, req, by_, terms, now⟩
    return (sheet, ⟨b.rows.putSheet sheet, b.last + 1⟩)
  | .createContract d now =>
    if b.rows.contracts.values.any (·.line == d.line) then
      .error (.duplicate "contract for interest" d.line)
    else
      let k := d.toContract (b.last + 1) now
      .ok (k, ⟨b.rows.putContract k, b.last + 1⟩)
  | .getContract id => do
    return (← found (.notFound "contract" id) (b.rows.contracts.get? id), b)
  | .contractOfLine line => .ok (b.rows.contracts.values.find? (·.line == line), b)
  | .setGuaranteeEnd id at_ => do
    let k ← found (.notFound "contract" id) (b.rows.contracts.get? id)
    return ({ k with guaranteeEndedAt := some at_ }, { b with rows := b.rows.endGuarantee id at_ })
  | .currentCeiling now => .ok (Store.ceilingAt? now b.rows.ceilings.values, b)
  | .createCeiling rate affectedFrom now =>
    let c : Ceiling := ⟨b.last + 1, rate, affectedFrom, now⟩
    .ok (c, ⟨b.rows.putCeiling c, b.last + 1⟩)
  | .createJob e now =>
    let j := e.toRecord (b.last + 1) now
    .ok (j, ⟨b.rows.putJob j, b.last + 1⟩)
  | .listJobs kind limit => .ok ((newestFirst (fun j => (j.createdAt, j.id))
      (b.rows.jobs.values.filter fun j => accepts kind (j.kind == ·))).take limit.toNat, b)

end Book
end LoanDesk
