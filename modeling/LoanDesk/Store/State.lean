/-
# The store

`store/memory`: `MemoryState` as `Store`, `Pending` as `Changes`, `try_lock` as `tryLock`,
`cancel_pending_where` as `cancelWhere`, and the methods of `MemoryTx` as `perform`.

Seven tables under one counter of numbers, row locks on requests and lines, and the staged changes
of the open transactions. A transaction sees the stored rows with its own changes over them. Its
changes reach the tables when it commits; when it ends, either way, its locks are free.

`perform` gives each call its meaning. A call that fails half way keeps what it has done so far in
the transaction, which its caller then drops. Numbers are never given back.
-/

import LoanDesk.Store.Call
import LoanDesk.Store.Table

namespace LoanDesk

/-- One of something for each table. -/
structure Tables (F : Type → Type) where
  requests : F Request
  offers : F Offer
  lines : F Line
  contracts : F Contract
  sheets : F Sheet
  ceilings : F Ceiling
  jobs : F JobRecord

/-- The rows of all tables. -/
abbrev Rows := Tables Table

/-- Changes of all tables: rows to be stored, and rows to go. -/
abbrev Changes := Tables fun α => Table (Option α)

/-- No rows. -/
def Rows.empty : Rows := ⟨.empty, .empty, .empty, .empty, .empty, .empty, .empty⟩

/-- No changes. -/
def Changes.none : Changes := ⟨.empty, .empty, .empty, .empty, .empty, .empty, .empty⟩

/-- The rows with changes over them. -/
def Rows.overlay (rows : Rows) (c : Changes) : Rows where
  requests := rows.requests.overlay c.requests
  offers := rows.offers.overlay c.offers
  lines := rows.lines.overlay c.lines
  contracts := rows.contracts.overlay c.contracts
  sheets := rows.sheets.overlay c.sheets
  ceilings := rows.ceilings.overlay c.ceilings
  jobs := rows.jobs.overlay c.jobs

/-- The number of a transaction. -/
abbrev TxId := Int

/-- A row that can be locked. -/
inductive RowKey where
  | request (id : Int)
  | line (id : Int)
  deriving DecidableEq

/-- The holders of the locked rows. -/
structure Locks where
  requests : Table TxId
  lines : Table TxId

namespace Locks

/-- No row is locked. -/
def none : Locks := ⟨.empty, .empty⟩

/-- The transaction that holds a row. -/
def holder? (l : Locks) : RowKey → Option TxId
  | .request id => l.requests.get? id
  | .line id => l.lines.get? id

/-- The row is free, or the transaction holds it already. -/
def isFree (l : Locks) (tx : TxId) (key : RowKey) : Bool :=
  match l.holder? key with
  | some holder => holder == tx
  | Option.none => true

/-- The row goes to the transaction. -/
def take (l : Locks) (tx : TxId) : RowKey → Locks
  | .request id => { l with requests := l.requests.insert id tx }
  | .line id => { l with lines := l.lines.insert id tx }

/-- The rows of the transaction are free. -/
def release (l : Locks) (tx : TxId) : Locks :=
  ⟨l.requests.filter (· != tx), l.lines.filter (· != tx)⟩

end Locks

/-- A store with its open transactions. -/
structure Store where
  rows : Rows
  locks : Locks
  opened : Table Changes
  lastId : Int
  lastTx : TxId

namespace Store

/-- A store without rows and without transactions. -/
def empty : Store := ⟨.empty, .none, .empty, 0, 0⟩

/-- What a transaction has changed so far. -/
def changes (s : Store) (tx : TxId) : Changes := (s.opened.get? tx).getD .none

/-- The rows as a transaction sees them. -/
def view (s : Store) (tx : TxId) : Rows := s.rows.overlay (s.changes tx)

/-- A new transaction. -/
def begin (s : Store) : TxId × Store :=
  let tx := s.lastTx + 1
  (tx, { s with lastTx := tx, opened := s.opened.insert tx .none })

/-- The end of a transaction: its changes are gone and its locks are free. -/
def drop (s : Store) (tx : TxId) : Store :=
  { s with opened := s.opened.erase tx, locks := s.locks.release tx }

/-- The changes of a transaction reach the tables, and it ends. -/
def commit (s : Store) (tx : TxId) : Store := drop { s with rows := s.view tx } tx

/-- All of the rows go to the transaction, or none of them. -/
def tryLock (s : Store) (tx : TxId) (keys : List RowKey) : Option Store :=
  if keys.all (s.locks.isFree tx) then
    some { s with locks := keys.foldl (·.take tx) s.locks }
  else none

/-- The transaction changes something. -/
def stage (s : Store) (tx : TxId) (f : Changes → Changes) : Store :=
  { s with opened := s.opened.insert tx (f (s.changes tx)) }

/-- A new number. -/
def newId (s : Store) : Int × Store := (s.lastId + 1, { s with lastId := s.lastId + 1 })

/-- What a transaction does to a store: an answer or an error, and the store afterwards. -/
abbrev Act := ExceptT StoreError (StateM Store)

/-- What holds of the store is read. -/
def asks {α : Type} (f : Store → α) : Act α := do return f (← get)

/-- A new number is taken. -/
def takeId : Act Int := modifyGet newId

/-- The rows are locked, or the error is raised. -/
def lockOr (tx : TxId) (keys : List RowKey) (e : StoreError) : Act Unit := do
  match (← get).tryLock tx keys with
  | some s => set s
  | none => throw e

/-- The row that is found, or the error. -/
def orError {α : Type} (e : StoreError) : Option α → Act α
  | some a => pure a
  | none => throw e

/-- The transaction stages changes. -/
def stages (tx : TxId) (f : Changes → Changes) : Act Unit := modify (·.stage tx f)

/-- The request under a number. -/
def request (tx : TxId) (id : Int) : Act Request := do
  orError (.notFound "request" id) (← asks fun s => (s.view tx).requests.get? id)

/-- A request is locked and stored. -/
def writeRequest (tx : TxId) (r : Request) : Act Unit := do
  lockOr tx [.request r.id] (.locked "request" r.id)
  stages tx fun c => { c with requests := c.requests.insert r.id (some r) }

/-- A line is locked and stored. -/
def writeLine (tx : TxId) (l : Line) : Act Unit := do
  lockOr tx [.line l.id] (.locked "offer interest" l.id)
  stages tx fun c => { c with lines := c.lines.insert l.id (some l) }

/-- Lines are stored one after another. -/
def writeLines (tx : TxId) : List Line → Act Unit
  | [] => pure ()
  | l :: ls => do writeLine tx l; writeLines tx ls

/-- The pending lines that are selected are cancelled; their number. -/
def cancelWhere (tx : TxId) (select : Line → Bool) (by_ : String) (reason : CancelReason)
    (now : Instant) : Act Nat := do
  let targets ← asks fun s => (s.view tx).lines.values.filter fun l => l.isPending && select l
  writeLines tx (targets.map fun l => l.cancelled by_ reason now)
  return targets.length

/-- Rows under numbers are changed one after another, each row once; how many there were. Every row
is taken as it was at the start. -/
def changeEach {α : Type} (write : α → Act Unit) (f : α → α) (rows : Table α) : List Int → Act Nat
  | [] => return 0
  | id :: ids =>
    match rows.get? id with
    | some a => do
      write (f a)
      return (← changeEach write f (rows.erase id) ids) + 1
    | none => changeEach write f rows ids

/-- The requests that can be locked are locked, up to a limit; those that others hold are passed
over. -/
def claim (tx : TxId) (limit : Option Int) : List Request → Act (List Request)
  | [] => return []
  | r :: rs =>
    if limit.any (· ≤ 0) then return []
    else do
      match (← get).tryLock tx [.request r.id] with
      | some s =>
        set s
        return r :: (← claim tx (limit.map (· - 1)) rs)
      | none => claim tx limit rs

/-- Lines are created one after another. -/
def createLines (tx : TxId) (offer request : Int) (now : Instant) :
    List LineDraft → Act (List Line)
  | [] => return []
  | d :: ds => do
    let l := d.toLine (← takeId) offer request now
    writeLine tx l
    return l :: (← createLines tx offer request now ds)

/-- A request goes, and with it its offers, lines and sheets. -/
def deleteRequest (tx : TxId) (id : Int) : Act Unit := do
  let _ ← request tx id
  lockOr tx [.request id] (.locked "request" id)
  let view ← asks (·.view tx)
  let lines := (view.lines.values.filter (·.request == id)).map (·.id)
  lockOr tx (lines.map .line) (.locked "request" id)
  let offers := (view.offers.values.filter (·.request == id)).map (·.id)
  let sheets := (view.sheets.values.filter (·.request == id)).map (·.id)
  stages tx fun c => { c with
    lines := lines.foldl (·.insert · none) c.lines
    offers := offers.foldl (·.insert · none) c.offers
    sheets := sheets.foldl (·.insert · none) c.sheets
    requests := c.requests.insert id none }

/-- An offer with its request and its lines, where the request belongs to the investor. -/
def details? (view : Rows) (investor : Int) (o : Offer) : Option OfferDetails := do
  let r ← (view.requests.get? o.request).filter (·.investor == investor)
  return ⟨o, r, newestFirst (fun l => (l.createdAt, l.id))
    (view.lines.values.filter (·.offer == o.id))⟩

/-- The offers that can no longer be accepted and have a line that is still pending. -/
def expiredOffers (view : Rows) (now : Instant) : List Offer :=
  view.offers.values.filter fun o =>
    o.flow == .online && o.isExpired now &&
      view.lines.values.any fun l => l.offer == o.id && l.isPending

/-- The ceiling that is in force: of those already effective the one effective last. -/
def ceilingAt? (now : Instant) (cs : List Ceiling) : Option Ceiling :=
  (cs.filter (·.affectedFrom ≤ now)).foldl (fun best c => match best with
    | none => some c
    | some b =>
      if b.affectedFrom < c.affectedFrom || (b.affectedFrom == c.affectedFrom && b.id ≤ c.id) then
        some c
      else some b) none

/-- What a call of a transaction does. -/
def act (tx : TxId) : (c : Call) → Act c.Answer
  | .createRequest d now => do
    let r := d.toRequest (← takeId) now
    writeRequest tx r
    return r
  | .getRequest id => request tx id
  | .lockRequest id mode => do
    let r ← request tx id
    lockOr tx [.request id] <| match mode with
      | .noWait => .locked "request" id
      | .skipLocked => .notFound "request" id
    return r
  | .setRequestStatus id status now => do
    let r ← request tx id
    writeRequest tx { r with status, updatedAt := now }
  | .setRequestStatuses ids status now => do
    let rows ← asks fun s => (s.view tx).requests
    changeEach (writeRequest tx) (fun r => { r with status, updatedAt := now }) rows ids
  | .listRequests f page => asks fun s =>
    page.slice <| newestFirst (fun r => (r.createdAt, r.id)) <|
      (s.view tx).requests.values.filter f.accepts
  | .countRequests f => asks fun s => ((s.view tx).requests.values.filter f.accepts).length
  | .claimAboveRate rate limit => do
    let rs ← asks fun s =>
      (s.view tx).requests.values.filter fun r => r.isPending && rate ≤ r.loanRate
    claim tx (some limit) rs
  | .claimBySymbol symbol => do
    let rs ← asks fun s =>
      (s.view tx).requests.values.filter fun r => r.isPending && r.symbol == symbol
    claim tx none rs
  | .deleteRequest id => deleteRequest tx id
  | .createOffer d now => do
    let _ ← request tx d.request
    let o := d.toOffer (← takeId) now
    stages tx fun c => { c with offers := c.offers.insert o.id (some o) }
    return o
  | .createLines offer request ds now => createLines tx offer request now ds
  | .offerWithRequest id => do
    let o ← orError (.notFound "offer" id) (← asks fun s => (s.view tx).offers.get? id)
    return (o, ← request tx o.request)
  | .offersOfRequest id => asks fun s =>
    newestFirst (fun o => (o.createdAt, o.id)) ((s.view tx).offers.values.filter (·.request == id))
  | .offersOfInvestor investor => asks fun s =>
    newestFirst (fun d => (d.offer.createdAt, d.offer.id))
      ((s.view tx).offers.values.filterMap (details? (s.view tx) investor))
  | .getLine id => do
    orError (.notFound "offer interest" id) (← asks fun s => (s.view tx).lines.get? id)
  | .linesOfRequests ids => asks fun s =>
    newestFirst (fun l => (l.createdAt, l.id))
      ((s.view tx).lines.values.filter fun l => ids.contains l.request)
  | .expiredOffers now => asks fun s => expiredOffers (s.view tx) now
  | .lockLinesOfOffer offer => do
    let ls ← asks fun s => (s.view tx).lines.values.filter (·.offer == offer)
    if ls.isEmpty then throw (.notFound "offer" offer)
    lockOr tx (ls.map fun l => .line l.id) (.locked "offer" offer)
    return ls
  | .cancelByOffer offer by_ reason now => cancelWhere tx (·.offer == offer) by_ reason now
  | .cancelExpired offers by_ now =>
    cancelWhere tx (fun l => offers.contains l.offer) by_ .expired now
  | .cancelLines ids by_ reason now => cancelWhere tx (fun l => ids.contains l.id) by_ reason now
  | .cancelByRequests ids by_ reason now =>
    cancelWhere tx (fun l => ids.contains l.request) by_ reason now
  | .setLineStatuses ids status now => do
    let rows ← asks fun s => (s.view tx).lines
    changeEach (writeLine tx) (fun l => l.withStatus status now) rows ids
  | .attachContract line contract now => do
    let l ← orError (.notFound "offer interest" line) (← asks fun s => (s.view tx).lines.get? line)
    writeLine tx (l.withContract contract now)
  | .createSheet req by_ terms now => do
    let _ ← request tx req
    let sheet : Sheet := ⟨← takeId, req, by_, terms, now⟩
    stages tx fun c => { c with sheets := c.sheets.insert sheet.id (some sheet) }
    return sheet
  | .createContract d now => do
    if ← asks fun s => (s.view tx).contracts.values.any (·.line == d.line) then
      throw (.duplicate "contract for interest" d.line)
    let k := d.toContract (← takeId) now
    stages tx fun c => { c with contracts := c.contracts.insert k.id (some k) }
    return k
  | .getContract id => do
    orError (.notFound "contract" id) (← asks fun s => (s.view tx).contracts.get? id)
  | .contractOfLine line => asks fun s => (s.view tx).contracts.values.find? (·.line == line)
  | .setGuaranteeEnd id at_ => do
    let k ← orError (.notFound "contract" id) (← asks fun s => (s.view tx).contracts.get? id)
    let k := { k with guaranteeEndedAt := some at_ }
    stages tx fun c => { c with contracts := c.contracts.insert id (some k) }
    return k
  | .currentCeiling now => asks fun s => ceilingAt? now (s.view tx).ceilings.values
  | .createCeiling rate affectedFrom now => do
    let c : Ceiling := ⟨← takeId, rate, affectedFrom, now⟩
    stages tx fun cs => { cs with ceilings := cs.ceilings.insert c.id (some c) }
    return c
  | .createJob e now => do
    let j := e.toRecord (← takeId) now
    stages tx fun c => { c with jobs := c.jobs.insert j.id (some j) }
    return j
  | .listJobs kind limit => asks fun s =>
    (newestFirst (fun j => (j.createdAt, j.id))
      ((s.view tx).jobs.values.filter fun j => accepts kind (j.kind == ·))).take limit.toNat

/-- The answer to a call of a transaction, and the store afterwards. -/
def perform (s : Store) (tx : TxId) (c : Call) : Except StoreError c.Answer × Store := act tx c s

end Store
end LoanDesk
