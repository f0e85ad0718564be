/-
# Rows and what is read from them

Every entity has a row in which a database keeps it: a column for each of its parts, in the order in
which statements name them, words for what is named by words, and nothing where the entity has
nothing. An offer whose flow is not specified has nothing there either. What is read from such a row
is the entity again (`readOffer_offerRow` and its siblings).

`outcome` is what a script comes to with a server that gives each query a reply. The lemmas on it say
what becomes of the rows of a reply: all of them as entities (`outcome_allOf`), or the first.
-/

import LoanDesk.Proofs.Sql.Meaning
import LoanDesk.Proofs.Store.Isolation
import Mathlib.Data.List.Forall2
import Mathlib.Data.List.Perm.Basic

namespace LoanDesk

/-- What is arranged differently after a map could have been before it. -/
theorem exists_map_of_perm {α β : Type} {f : α → β} {as : List α} {bs : List β}
    (h : bs.Perm (as.map f)) : ∃ as' : List α, as'.Perm as ∧ bs = as'.map f := by
  have hsame : List.Forall₂ (fun b a => b = f a) (as.map f) as := by
    rw [List.forall₂_map_left_iff]
    exact List.forall₂_same.2 fun _ _ => rfl
  obtain ⟨as', hbs, hperm⟩ := List.perm_comp_forall₂ h hsame
  refine ⟨as', hperm, ?_⟩
  rw [← List.forall₂_map_right_iff (R := Eq), List.forall₂_eq_eq_eq] at hbs
  exact hbs

/-- What is selected after a map was selected before it by another test. -/
theorem filter_map_of {α β : Type} {f : α → β} {p : β → Bool} {q : α → Bool}
    (h : ∀ a, p (f a) = q a) (as : List α) : (as.map f).filter p = (as.filter q).map f := by
  rw [List.filter_map]
  exact congrArg _ (List.filter_congr fun a _ => h a)

namespace Sql

/-! ### Rows -/

/-- The columns of a row that a statement asks for, in its order. -/
def project (columns : List String) (row : Row) : Row := columns.map fun c => (c, cell row c)

/-- The row that an offer is stored in. -/
def offerRow (o : Offer) : Row :=
  [("id", .int o.id), ("request_id", .int o.request), ("offered_by", .text o.offeredBy),
    ("flow_type", flowValue o.flow), ("expired_at", .ofOption .time o.expiredAt),
    ("created_at", .time o.createdAt)]

/-- The row that a line is stored in. -/
def lineRow (l : Line) : Row :=
  [("id", .int l.id), ("offer_id", .int l.offer), ("request_id", .int l.request),
    ("loan_id", .int l.loan), ("score_group_id", .ofOption .int l.scoreGroup),
    ("limit_amount", .decimal l.limitAmount), ("loan_rate", .decimal l.loanRate),
    ("interest_rate", .decimal l.interestRate), ("term_days", .int l.termDays),
    ("status", wordOf l.status), ("cancelled_reason", wordOf l.cancelReason),
    ("cancelled_by", .ofOption .text l.cancelledBy),
    ("cancelled_at", .ofOption .time l.cancelledAt), ("contract_id", .ofOption .int l.contract),
    ("created_at", .time l.createdAt), ("updated_at", .time l.updatedAt)]

/-- The row that a contract is stored in. -/
def contractRow (k : Contract) : Row :=
  [("id", .int k.id), ("request_id", .int k.request), ("interest_id", .int k.line),
    ("investor_id", .int k.investor), ("account_no", .text k.account), ("symbol_id", .int k.symbol),
    ("loan_id", .int k.loan), ("guarantee_ended_at", .ofOption .time k.guaranteeEndedAt),
    ("created_at", .time k.createdAt)]

/-- The row that a job record is stored in. -/
def jobRow (j : JobRecord) : Row :=
  [("id", .int j.id), ("job_type", wordOf j.kind), ("status", wordOf j.status),
    ("triggered_by", .text j.triggeredBy), ("tracking_data", .json j.tracking),
    ("created_at", .time j.createdAt)]

/-- The row that a sheet is stored in. -/
def sheetRow (s : Sheet) : Row :=
  [("id", .int s.id), ("request_id", .int s.request), ("submitted_by", .text s.submittedBy),
    ("terms", .json s.terms), ("created_at", .time s.createdAt)]

/-- The row that a ceiling is stored in. -/
def ceilingRow (c : Ceiling) : Row :=
  [("id", .int c.id), ("maximum_loan_rate", .decimal c.maximumRate),
    ("affected_from", .time c.affectedFrom), ("created_at", .time c.createdAt)]

/-! ### Databases -/

/-- The rows of a database, by table. -/
abbrev Database := String → List Row

end Sql

/-- The name of a table in statements. -/
def TableName.title : TableName → String
  | .requests => Sql.requestTable
  | .offers => Sql.offerTable
  | .lines => Sql.lineTable
  | .contracts => Sql.contractTable
  | .sheets => Sql.sheetTable
  | .ceilings => Sql.ceilingTable
  | .jobs => Sql.jobTable

/-- The row that an entity is stored in. -/
def TableName.row : (n : TableName) → n.Row → Sql.Row
  | .requests => Sql.requestRow
  | .offers => Sql.offerRow
  | .lines => Sql.lineRow
  | .contracts => Sql.contractRow
  | .sheets => Sql.sheetRow
  | .ceilings => Sql.ceilingRow
  | .jobs => Sql.jobRow

/-- The table of this name in statements, if there is one. -/
def TableName.find? (title : String) : Option TableName :=
  [requests, offers, lines, contracts, sheets, ceilings, jobs].find? (·.title == title)

/-- A table is found by its title. -/
theorem TableName.find?_title (n : TableName) : find? n.title = some n := by
  cases n <;> rfl

/-- What is found by a title has it. -/
theorem TableName.title_of_find? {title : String} {n : TableName} (h : find? title = some n) :
    n.title = title := by
  simpa using List.find?_some h

/-- The rows as a database has them. -/
def Rows.database (rows : Rows) : Sql.Database := fun title =>
  match TableName.find? title with
  | some n => (rows.get n).values.map n.row
  | none => []

/-- Under its title a table stands in the database, row by row. -/
theorem Rows.database_title (rows : Rows) (n : TableName) :
    rows.database n.title = (rows.get n).values.map n.row := by
  rw [database, n.find?_title]

namespace Sql

/-! ### What is read -/

section Optional

variable {row : Row} {column : String}

/-- A number that may be missing is read from its column. -/
theorem intAt?_of_cell {n? : Option Int} (h : cell row column = .ofOption .int n?) :
    intAt? row column = n? := by
  rw [intAt?, h]
  cases n? <;> rfl

/-- A text that may be missing is read from its column. -/
theorem textAt?_of_cell {s? : Option String} (h : cell row column = .ofOption .text s?) :
    textAt? row column = s? := by
  rw [textAt?, h]
  cases s? <;> rfl

/-- A time that may be missing is read from its column. -/
theorem timeAt?_of_cell {t? : Option Instant} (h : cell row column = .ofOption .time t?) :
    timeAt? row column = t? := by
  rw [timeAt?, h]
  cases t? <;> rfl

end Optional

/-- The word of something names it. -/
theorem word_word {α : Type} [Vocabulary α] (table : String) (a : α) :
    word table (Vocabulary.word a) = .ok a := word_eq_ok.2 rfl

/-- A flow that is not specified is stored as nothing, and nothing is read as that. -/
theorem readOffer_offerRow (o : Offer) : readOffer (offerRow o) = .ok (.ok o) := by
  obtain ⟨id, request, offeredBy, flow, expiredAt, createdAt⟩ := o
  cases flow <;> cases expiredAt <;> rfl

/-- A line is read from its row. -/
theorem readLine_lineRow (l : Line) : readLine (lineRow l) = .ok (.ok l) := by
  have hgroup : intAt? (lineRow l) "score_group_id" = l.scoreGroup := intAt?_of_cell rfl
  have hby : textAt? (lineRow l) "cancelled_by" = l.cancelledBy := textAt?_of_cell rfl
  have hat : timeAt? (lineRow l) "cancelled_at" = l.cancelledAt := timeAt?_of_cell rfl
  have hcontract : intAt? (lineRow l) "contract_id" = l.contract := intAt?_of_cell rfl
  unfold readLine
  rw [hgroup, hby, hat, hcontract]
  change (Except.ok (do
    let status ← word lineTable (Vocabulary.word l.status)
    let cancelReason ← word lineTable (Vocabulary.word l.cancelReason)
    return { l with status, cancelReason }) : Cells (Words Line)) = _
  rw [word_word, word_word]
  rfl

/-- A contract is read from its row. -/
theorem readContract_contractRow (k : Contract) : readContract (contractRow k) = .ok k := by
  have hended : timeAt? (contractRow k) "guarantee_ended_at" = k.guaranteeEndedAt :=
    timeAt?_of_cell rfl
  unfold readContract
  rw [hended]
  rfl

/-- The record of a run is read from its row. -/
theorem readJob_jobRow (j : JobRecord) : readJob (jobRow j) = .ok (.ok j) := by
  change (Except.ok (do
    let kind ← word jobTable (Vocabulary.word j.kind)
    let status ← word jobTable (Vocabulary.word j.status)
    return { j with kind, status }) : Cells (Words JobRecord)) = _
  rw [word_word, word_word]
  rfl

/-! ### What scripts come to -/

/-- A server, as far as one script sees it: a reply to each query. -/
abbrev Replies := Query → Except DatabaseError Reply

/-- What a script comes to with the replies. -/
def outcome (replies : Replies) {ε α : Type} (f : ExceptT ε Script α) : Except ε α :=
  (Script.run (m := Id) replies f.run).run

section Outcome

variable {replies : Replies} {ε α β : Type}

/-- A script goes on from what its first part came to. -/
theorem run_bind (s : Script α) (f : α → Script β) :
    (Script.run (m := Id) replies (s >>= f)).run =
      (Script.run (m := Id) replies (f (Script.run (m := Id) replies s).run)).run := by
  induction s with
  | done a => rfl
  | send q next ih => exact ih (replies q)

/-- A script goes on unless its first part failed. -/
theorem outcome_bind (f : ExceptT ε Script α) (g : α → ExceptT ε Script β) :
    outcome replies (f >>= g) = outcome replies f >>= fun a => outcome replies (g a) := by
  refine (run_bind f.run (ExceptT.bindCont g)).trans ?_
  rw [outcome]
  cases (Script.run (m := Id) replies f.run).run <;> rfl

/-- Errors are told in other words. -/
theorem outcome_adapt {ε' : Type} (wrap : ε → ε') (f : ExceptT ε Script α) :
    outcome replies (ExceptT.adapt wrap f) = (outcome replies f).mapError wrap :=
  run_bind f.run fun x => Script.done (x.mapError wrap)

variable {q : Query} {rows : List Row} {row : Row}

/-- A query gets its reply. -/
theorem outcome_reply (q : Query) : outcome replies (reply q) = replies q := rfl

/-- All rows of a reply are fetched. -/
theorem outcome_fetchAll (h : replies q = .ok (.rows rows)) :
    outcome replies (fetchAll q) = .ok rows := by
  rw [fetchAll, outcome_bind, outcome_reply, h]
  rfl

/-- The only row of a reply is fetched. -/
theorem outcome_fetchOne (h : replies q = .ok (.rows [row])) :
    outcome replies (fetchOne q) = .ok row := by
  rw [fetchOne, fetchFirst, outcome_bind, outcome_bind, outcome_fetchAll h]
  rfl

/-- The only row of a reply is read. -/
theorem outcome_plainOf {read : Row → Cells α} {a : α} (h : replies q = .ok (.rows [row]))
    (hread : read row = .ok a) : outcome replies (plainOf read q) = .ok a := by
  rw [plainOf, outcome_bind, outcome_fetchOne h]
  exact hread

/-- Whoever gets the blame for a failure, results are passed on as they are. -/
def Passes (replies : Replies) (blame : ∀ {β : Type}, Fetch β → Work β) : Prop :=
  ∀ {β : Type} (f : Fetch β) (b : β), outcome replies f = .ok b → outcome replies (blame f) = .ok b

/-- Results are passed on where errors are told plainly. -/
theorem passes_plainly : Passes replies plainly := by
  intro β f b h
  refine (outcome_adapt _ f).trans ?_
  rw [h]
  rfl

/-- Results are passed on where errors are told of an entity. -/
theorem passes_about (entity : String) (id : Int) : Passes replies (about entity id) := by
  intro β f b h
  refine (outcome_adapt _ f).trans ?_
  rw [h]
  rfl

variable {blame : ∀ {β : Type}, Fetch β → Work β}

/-- The only row of a reply is read, and the words in it are looked up. -/
theorem outcome_oneOf (hb : Passes replies blame) {read : Row → Cells (Words α)} {a : α}
    (h : replies q = .ok (.rows [row])) (hread : read row = .ok (.ok a)) :
    outcome replies (oneOf read blame q) = .ok a := by
  have hrow : outcome replies (do let row ← fetchOne q; ofDatabase (read row)) =
      .ok (.ok a) := by
    rw [outcome_bind, outcome_fetchOne h]
    exact hread
  rw [oneOf, outcome_bind, hb _ _ hrow]
  rfl

/-- Rows are read in their order, those of a reply that hold entities as these. -/
theorem mapM_read {read : Row → Cells (Words α)} {toRow : α → Row}
    (hread : ∀ a, read (toRow a) = .ok (.ok a)) :
    ∀ as : List α, (as.map toRow).mapM read = .ok (as.map .ok)
  | [] => rfl
  | a :: as => by
    rw [List.map_cons, List.mapM_cons, hread, mapM_read hread as]
    rfl

/-- Words that name something are all looked up. -/
theorem mapM_words : ∀ as : List α, ((as.map .ok : List (Words α)).mapM id : Words (List α)) = .ok as
  | [] => rfl
  | a :: as => by
    rw [List.map_cons, List.mapM_cons, mapM_words as]
    rfl

/-- What was looked up already is passed on. -/
theorem outcome_lookUpAll (as : List α) : outcome replies (lookUpAll (as.map .ok)) = .ok as :=
  mapM_words as

/-- All rows of a reply are read. -/
theorem outcome_readAll {read : Row → Cells β} {bs : List β} (h : replies q = .ok (.rows rows))
    (hread : rows.mapM read = .ok bs) :
    outcome replies (do let rows ← fetchAll q; ofDatabase (rows.mapM read)) = .ok bs := by
  rw [outcome_bind, outcome_fetchAll h]
  exact hread

/-- **All rows of a reply are read**, and then the words in them are looked up. -/
theorem outcome_allOf_words (hb : Passes replies blame) {read : Row → Cells (Words α)}
    {ws : List (Words α)} (h : replies q = .ok (.rows rows)) (hread : rows.mapM read = .ok ws) :
    outcome replies (allOf read blame q) = ws.mapM id := by
  rw [allOf, outcome_bind, hb _ _ (outcome_readAll h hread)]
  rfl

/-- **All rows of a reply are read as what they hold.** -/
theorem outcome_allOf (hb : Passes replies blame) {read : Row → Cells (Words α)} {toRow : α → Row}
    (hread : ∀ a, read (toRow a) = .ok (.ok a)) {as : List α}
    (h : replies q = .ok (.rows (as.map toRow))) :
    outcome replies (allOf read blame q) = .ok as :=
  (outcome_allOf_words hb h (mapM_read hread as)).trans (mapM_words as)

end Outcome

end Sql
end LoanDesk
