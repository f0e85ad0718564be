/-
# Calls as queries

`store/postgres`: the methods of `PgTx`, as `script`, and `push_request_filter` as `filterParts`;
`db`, as `verifyConnection` and `tablesExist`.

Each call of a transaction as a script of queries. A query about one row turns the server's refusals
into errors about that row; other failures of the database are passed on as they are. Where a call
is given no numbers to look for it sends nothing.

The values bound to the places of a statement are listed in the order of the places.
-/

import LoanDesk.Sql.Rows

namespace LoanDesk
namespace Sql

/-- A column that equals the value at a place. -/
def equals (column : String) (place : Nat) : Condition := ⟨column, .eq, .bound place⟩

/-- A column that equals one of the values at a place. -/
def among (column : String) (place : Nat) : Condition := ⟨column, .among, .bound place⟩

/-- The row, or the line, is pending. -/
def isPending : Condition := ⟨"status", .eq, .word "PENDING"⟩

/-- The newest rows first. -/
def newestOrder : List Order := [.descending "created_at", .descending "id"]

/-- The word of a value. -/
def wordOf {α : Type} [Vocabulary α] (a : α) : Value := .text (Vocabulary.word a)

/-- The value of a flow: nothing where it is not specified. -/
def flowValue (f : Flow) : Value := if f = .unspecified then .null else wordOf f

/-- Places in a row, one after another. -/
def places (first count : Nat) : List Operand :=
  (List.range count).map fun i => .bound (first + i)

/-- The conditions of a filter, each with its value, one for every field that is set. -/
def filterParts (f : RequestFilter) : List (String × Relation × Value) :=
  let part {α : Type} (column : String) (relation : Relation) (v : α → Value) (a : Option α) :
      List (String × Relation × Value) :=
    (a.map fun a => (column, relation, v a)).toList
  part "symbol_id" .eq .int f.symbol ++
  part "investor_id" .eq .int f.investor ++
  part "account_no" .eq .text f.account ++
  part "status" .eq wordOf f.status ++
  part "request_type" .eq wordOf f.kind ++
  part "asset_type" .eq wordOf f.asset ++
  part "loan_rate" .ge .decimal f.rateFrom ++
  part "loan_rate" .le .decimal f.rateTo ++
  part "created_at" .ge .time f.createdFrom ++
  part "created_at" .le .time f.createdTo

/-- Conditions with their values bound to places, counted from one. -/
def bindParts (parts : List (String × Relation × Value)) : List Condition × List Value :=
  ((parts.zipIdx 1).map fun ((column, relation, _), place) => ⟨column, relation, .bound place⟩,
    parts.map fun (_, _, v) => v)

/-- A page of the requests that a filter selects. -/
def listRequestsQuery (f : RequestFilter) (page : Page) : Query :=
  let (conditions, params) := bindParts (filterParts f)
  ⟨.select {
      columns := requestColumns, table := requestTable, open_ := true, conditions
      order := newestOrder
      limit := some (.bound (params.length + 1))
      offset := some (.bound (params.length + 2)) },
    params ++ [.int page.limit, .int page.offset]⟩

/-- How many requests a filter selects. -/
def countRequestsQuery (f : RequestFilter) : Query :=
  let (conditions, params) := bindParts (filterParts f)
  ⟨.count requestTable conditions, params⟩

/-- A new request. -/
def createRequestQuery (d : RequestDraft) (now : Instant) : Query :=
  let r := d.toRequest 0 now
  ⟨.insert {
      table := requestTable, columns := requestColumns.drop 1, spaced := true
      rows := [places 1 11 ++ [.bound 11]], returning := requestColumns },
    [.int r.symbol, .int r.investor, .text r.account, .decimal r.loanRate, .decimal r.limitAmount,
      wordOf r.kind, wordOf r.asset, .ofOption .decimal r.initialRate,
      .ofOption .int r.contractSize, wordOf r.status, .time now]⟩

/-- The request under a number, locked or not. -/
def requestQuery (id : Int) (lock : Option LockMode) : Query :=
  ⟨.select {
      columns := requestColumns, table := requestTable, conditions := [equals "id" 1], lock },
    [.int id]⟩

/-- A new status and a new time of change where a condition holds. -/
def statusUpdate (table : String) (condition : Condition) : Statement :=
  .update {
    table, set_ := [("status", .bound 2), ("updated_at", .bound 3)], conditions := [condition] }

/-- The pending requests that a condition selects are locked, in order; rows that others hold are
passed over. -/
def claimQuery (condition : Condition) (limit : Option Operand) (params : List Value) : Query :=
  ⟨.select {
      columns := requestColumns, table := requestTable, conditions := [isPending, condition]
      order := [.ascending "id"], limit, lock := some .skipLocked },
    params⟩

/-- A new offer. -/
def createOfferQuery (d : OfferDraft) (now : Instant) : Query :=
  ⟨.insert {
      table := offerTable, columns := offerColumns.drop 1, rows := [places 1 5]
      returning := offerColumns },
    [.int d.request, .text d.offeredBy, flowValue d.flow, .ofOption .time d.expiredAt, .time now]⟩

/-- The columns of a new line. -/
def newLineColumns : List String :=
  ["offer_id", "request_id", "loan_id", "score_group_id", "limit_amount", "loan_rate",
    "interest_rate", "term_days", "status", "cancelled_reason", "created_at", "updated_at"]

/-- The values of a new line. -/
def newLineValues (offer request : Int) (d : LineDraft) (now : Instant) : List Value :=
  [.int offer, .int request, .int d.loan, .ofOption .int d.scoreGroup, .decimal d.limitAmount,
    .decimal d.loanRate, .decimal d.interestRate, .int d.termDays, wordOf LineStatus.pending,
    wordOf CancelReason.unknown, .time now, .time now]

/-- New lines, all in one statement. -/
def createLinesQuery (offer request : Int) (ds : List LineDraft) (now : Instant) : Query :=
  ⟨.insert {
      table := lineTable, columns := newLineColumns
      rows := (List.range ds.length).map fun i => places (12 * i + 1) 12
      returning := lineColumns },
    ds.flatMap fun d => newLineValues offer request d now⟩

/-- The lines that a condition selects, the newest first. -/
def linesQuery (condition : Condition) (value : Value) : Query :=
  ⟨.select {
      columns := lineColumns, table := lineTable, conditions := [condition], order := newestOrder },
    [value]⟩

/-- The offers made to an investor, the newest first. -/
def offersOfInvestorQuery (investor : Int) : Query :=
  ⟨.join {
      columns := offerColumns, table := offerTable, key := "request_id", other := requestTable
      otherKey := "id", conditions := [equals "investor_id" 1], order := newestOrder },
    [.int investor]⟩

/-- The requests of an investor. -/
def requestsOfInvestorQuery (investor : Int) : Query :=
  ⟨.select {
      columns := requestColumns, table := requestTable
      conditions := [equals "investor_id" 1] },
    [.int investor]⟩

/-- The online offers whose time has passed and that have a pending line. -/
def expiredOffersQuery (now : Instant) : Query :=
  ⟨.having {
      columns := offerColumns, table := offerTable
      conditions := [⟨"flow_type", .eq, .word "ONLINE"⟩, ⟨"expired_at", .lt, .bound 1⟩]
      other := lineTable, link := "offer_id", otherConditions := [isPending]
      order := [.ascending "id"] },
    [.time now]⟩

/-- The pending lines that a condition selects are cancelled. -/
def cancelQuery (condition : Condition) (value : Value) (by_ : String) (reason : CancelReason)
    (now : Instant) : Query :=
  ⟨.update {
      table := lineTable
      set_ := [("status", .word "CANCELLED"), ("cancelled_reason", .bound 3),
        ("cancelled_by", .bound 2), ("cancelled_at", .bound 4), ("updated_at", .bound 4)]
      conditions := [condition, isPending] },
    [value, .text by_, wordOf reason, .time now]⟩

/-- A new contract. -/
def createContractQuery (d : ContractDraft) (now : Instant) : Query :=
  ⟨.insert {
      table := contractTable
      columns := ["request_id", "interest_id", "investor_id", "account_no", "symbol_id", "loan_id",
        "created_at"]
      spaced := true, rows := [places 1 7], returning := contractColumns },
    [.int d.request, .int d.line, .int d.investor, .text d.account, .int d.symbol, .int d.loan,
      .time now]⟩

/-- The contract that a condition selects. -/
def contractQuery (column : String) (id : Int) : Query :=
  ⟨.select {
      columns := contractColumns, table := contractTable, conditions := [equals column 1] },
    [.int id]⟩

/-- A new job record. -/
def createJobQuery (e : JobEntry) (now : Instant) : Query :=
  ⟨.insert {
      table := jobTable, columns := jobColumns.drop 1, rows := [places 1 5]
      returning := jobColumns },
    [wordOf e.kind, wordOf e.status, .text e.triggeredBy, .json e.tracking, .time now]⟩

/-- The job records of a kind, or all, the newest first. -/
def listJobsQuery (kind : Option JobKind) (limit : Int) : Query :=
  let (conditions, params) :=
    bindParts (kind.map fun k => ("job_type", Relation.eq, wordOf k)).toList
  ⟨.select {
      columns := jobColumns, table := jobTable, open_ := true, conditions, order := newestOrder
      limit := some (.bound (params.length + 1)) },
    params ++ [.int limit]⟩

/-- A change of one row, which has to be there. -/
def changeOne (entity : String) (id : Int) (q : Query) : Work Unit := do
  if (← about entity id (execute q)) = 0 then throw (.notFound entity id)

/-- A change of the rows under numbers; nothing is sent where there are none. -/
def changeMany (ids : List Int) (q : Query) : Work Nat :=
  if ids.isEmpty then return 0 else plainly (execute q)

/-- The request under a number. -/
def getRequest (id : Int) (lock : Option LockMode) : Work Request :=
  oneOf readRequest (about "request" id) (requestQuery id lock)

/-- New lines, in the order of their numbers. -/
def createLines (offer request : Int) (ds : List LineDraft) (now : Instant) :
    Work (List Line) := do
  if ds.isEmpty then return []
  let rows ← plainly do
    let rows ← fetchAll (createLinesQuery offer request ds now)
    let lines ← ofDatabase (rows.mapM readLine)
    return (rows.map fun row => (intAt? row "id").getD 0).zip lines
  lookUpAll ((rows.mergeSort fun a b => a.1 ≤ b.1).map (·.2))

/-- The lines of the offers, each with the request it was made for. Of offers of one number only the
first has lines. -/
def details (requests : List Request) (lines : List Line) :
    List Int → List Offer → Words (List OfferDetails)
  | _, [] => return []
  | seen, o :: os => do
    match requests.reverse.find? (·.id == o.request) with
    | none => throw (.notFound "request" o.request)
    | some r =>
      let own := if seen.contains o.id then [] else lines.filter (·.offer == o.id)
      return ⟨o, r, own⟩ :: (← details requests lines (o.id :: seen) os)

/-- The offers made to an investor, put together from three queries. -/
def offersOfInvestor (investor : Int) : Work (List OfferDetails) := do
  let offers ← allOf readOffer plainly (offersOfInvestorQuery investor)
  if offers.isEmpty then return []
  let requests ← allOf readRequest plainly (requestsOfInvestorQuery investor)
  let lines ← allOf readLine plainly
    (linesQuery (among "offer_id" 1) (.ints (offers.map (·.id))))
  ExceptT.mk (.done (details requests lines [] offers))

/-- What a call comes to on a database. -/
def script : (c : Call) → Work c.Answer
  | .createRequest d now => oneOf readRequest plainly (createRequestQuery d now)
  | .getRequest id => getRequest id none
  | .lockRequest id mode => getRequest id (some mode)
  | .setRequestStatus id status now =>
    changeOne "request" id
      ⟨statusUpdate requestTable (equals "id" 1), [.int id, wordOf status, .time now]⟩
  | .setRequestStatuses ids status now =>
    changeMany ids
      ⟨statusUpdate requestTable (among "id" 1), [.ints ids, wordOf status, .time now]⟩
  | .listRequests f page => allOf readRequest plainly (listRequestsQuery f page)
  | .countRequests f => plainly (plainOf (onlyInt "count") (countRequestsQuery f))
  | .claimAboveRate rate limit =>
    allOf readRequest plainly
      (claimQuery ⟨"loan_rate", .ge, .bound 1⟩ (some (.bound 2)) [.decimal rate, .int limit])
  | .claimBySymbol symbol =>
    allOf readRequest plainly (claimQuery (equals "symbol_id" 1) none [.int symbol])
  | .deleteRequest id =>
    changeOne "request" id ⟨.delete requestTable [equals "id" 1], [.int id]⟩
  | .createOffer d now => oneOf readOffer (about "request" d.request) (createOfferQuery d now)
  | .createLines offer request ds now => createLines offer request ds now
  | .offerWithRequest id => do
    let o ← oneOf readOffer (about "offer" id)
      ⟨.select {
          columns := offerColumns, table := offerTable, conditions := [equals "id" 1] }, [.int id]⟩
    return (o, ← getRequest o.request none)
  | .offersOfRequest id =>
    allOf readOffer plainly
      ⟨.select {
          columns := offerColumns, table := offerTable, conditions := [equals "request_id" 1]
          order := newestOrder }, [.int id]⟩
  | .offersOfInvestor investor => offersOfInvestor investor
  | .getLine id =>
    oneOf readLine (about "offer interest" id)
      ⟨.select {
          columns := lineColumns, table := lineTable, conditions := [equals "id" 1] }, [.int id]⟩
  | .linesOfRequests ids =>
    if ids.isEmpty then return []
    else allOf readLine plainly (linesQuery (among "request_id" 1) (.ints ids))
  | .expiredOffers now => allOf readOffer plainly (expiredOffersQuery now)
  | .lockLinesOfOffer offer => do
    let rows ← about "offer" offer do
      let rows ← fetchAll
        ⟨.select {
            columns := lineColumns, table := lineTable, conditions := [equals "offer_id" 1]
            order := [.ascending "id"], lock := some .noWait }, [.int offer]⟩
      ofDatabase (rows.mapM readLine)
    if rows.isEmpty then throw (.notFound "offer" offer)
    lookUpAll rows
  | .cancelByOffer offer by_ reason now =>
    about "offer" offer (execute (cancelQuery (equals "offer_id" 1) (.int offer) by_ reason now))
  | .cancelExpired offers by_ now =>
    changeMany offers (cancelQuery (among "offer_id" 1) (.ints offers) by_ .expired now)
  | .cancelLines ids by_ reason now =>
    changeMany ids (cancelQuery (among "id" 1) (.ints ids) by_ reason now)
  | .cancelByRequests ids by_ reason now =>
    changeMany ids (cancelQuery (among "request_id" 1) (.ints ids) by_ reason now)
  | .setLineStatuses ids status now =>
    changeMany ids ⟨statusUpdate lineTable (among "id" 1), [.ints ids, wordOf status, .time now]⟩
  | .attachContract line contract now =>
    changeOne "offer interest" line
      ⟨.update {
          table := lineTable, set_ := [("contract_id", .bound 2), ("updated_at", .bound 3)]
          conditions := [equals "id" 1] },
        [.int line, .int contract, .time now]⟩
  | .createSheet request by_ terms now => do
    let id ← about "request" request <| plainOf (onlyInt "id")
      ⟨.insert {
          table := sheetTable, columns := ["request_id", "submitted_by", "terms", "created_at"]
          rows := [places 1 4], returning := ["id"] },
        [.int request, .text by_, .json terms, .time now]⟩
    return ⟨id, request, by_, terms, now⟩
  | .createContract d now =>
    about "contract for interest" d.line (plainOf readContract (createContractQuery d now))
  | .getContract id => about "contract" id (plainOf readContract (contractQuery "id" id))
  | .contractOfLine line => plainly (firstOf readContract (contractQuery "interest_id" line))
  | .setGuaranteeEnd id at_ =>
    about "contract" id <| plainOf readContract
      ⟨.update {
          table := contractTable, set_ := [("guarantee_ended_at", .bound 2)]
          conditions := [equals "id" 1], returning := contractColumns },
        [.int id, .time at_]⟩
  | .currentCeiling now =>
    plainly <| firstOf readCeiling
      ⟨.select {
          columns := ceilingColumns, table := ceilingTable
          conditions := [⟨"affected_from", .le, .bound 1⟩]
          order := [.descending "affected_from", .descending "id"], limit := some (.number 1) },
        [.time now]⟩
  | .createCeiling rate affectedFrom now => do
    let id ← plainly <| plainOf (onlyInt "id")
      ⟨.insert {
          table := ceilingTable, columns := ["maximum_loan_rate", "affected_from", "created_at"]
          rows := [places 1 3], returning := ["id"] },
        [.decimal rate, .time affectedFrom, .time now]⟩
    return ⟨id, rate, affectedFrom, now⟩
  | .createJob e now => oneOf readJob plainly (createJobQuery e now)
  | .listJobs kind limit => allOf readJob plainly (listJobsQuery kind limit)

/-- The connection works. -/
def verifyConnection : Fetch Unit := do
  let _ ← execute ⟨.ping, []⟩

/-- The tables that have to be there. -/
def requiredTables : List String :=
  [requestTable, offerTable, lineTable, contractTable, sheetTable, ceilingTable, jobTable]

/-- The truth value in the only column of a row. -/
def onlyBool (column : String) (row : Row) : Cells Bool :=
  match cell row column with
  | .bool b => .ok b
  | _ => isNull (.place 0)

/-- All of the tables are there. Each is looked for, also after one was missing. -/
def tablesExist : List String → Fetch Bool
  | [] => return true
  | t :: ts => do
    let found ← plainOf (onlyBool "exists") ⟨.tableExists, [.text t]⟩
    let rest ← tablesExist ts
    return found && rest

end Sql
end LoanDesk
