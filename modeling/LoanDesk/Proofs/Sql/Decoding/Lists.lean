/-
# How a list of rows is read

A list of rows is read as a whole. If every text in a column of words is one of its words, there is
one entity for each row, in the order of the rows. Otherwise there is none, and the first row with
another text is told, by the first of its columns that holds one (`Layout.Reads`).

All calls that read a list of rows come to this (`Lists.reads`). Where no row comes back there is
nothing to read, except that the lines of an offer cannot be locked then (`reads_lockLines`).
-/

import LoanDesk.Proofs.Sql.Insertion
import LoanDesk.Proofs.Sql.Layout

namespace LoanDesk
namespace Sql

/-! ### A list of rows -/

namespace Layout

section Reads

variable {α : Type} (l : Layout α)

/-- The error tells the first text that names nothing of the first row that has one. -/
def FirstBad (rows : List Row) (e : StoreError) : Prop :=
  ∃ good bad rest, rows = good ++ bad :: rest ∧ (∀ row ∈ good, l.Spelt row) ∧ l.Blames bad e

/-- What a list of rows is read as. A list without rows may be refused. -/
structure Reads (refusal : Option StoreError) (rows : List Row)
    (result : Except StoreError (List α)) : Prop where
  /-- There are entities if and only if all texts name something. -/
  ok_iff : (∃ as, result = .ok as) ↔
    (∀ row ∈ rows, l.Spelt row) ∧ (rows = [] → refusal = none)
  /-- The entities stand for the rows, one for each and in their order. -/
  kept : ∀ as, result = .ok as → as.map l.row = rows.map l.stored
  /-- The first text that names nothing is told. -/
  error_iff : ∀ e, result = .error e ↔ l.FirstBad rows e ∨ (rows = [] ∧ refusal = some e)

end Reads

variable {α : Type} {l : Layout α} {rows : List Row} {result : Except StoreError (List α)}

/-- Rows are without fault when all of their texts name something. -/
theorem faults_eq_none : rows.findSome? l.fault? = none ↔ ∀ row ∈ rows, l.Spelt row := by
  rw [List.findSome?_eq_none_iff]
  exact forall₂_congr fun row _ => fault?_eq_none

/-- The first fault of rows is that of the first bad row. -/
theorem faults_eq_some {e : StoreError} : rows.findSome? l.fault? = some e ↔ l.FirstBad rows e := by
  rw [List.findSome?_eq_some_iff]
  simp only [fault?_eq_none, fault?_eq_some]
  constructor
  · rintro ⟨good, bad, rest, hrows, hbad, hgood⟩
    exact ⟨good, bad, rest, hrows, hgood, hbad⟩
  · rintro ⟨good, bad, rest, hrows, hgood, hbad⟩
    exact ⟨good, bad, rest, hrows, hbad, hgood⟩

/-- All rows are read, and of their faults the first is told. -/
theorem settles_rows : ∀ {rows : List Row}, (∀ row ∈ rows, l.Decodes row) →
    ∃ ws : List (Words α), rows.mapM l.read = .ok ws ∧ ws.length = rows.length ∧
      Settles (rows.findSome? l.fault?) (ws.mapM id) fun as => as.map l.row = rows.map l.stored
  | [], _ => ⟨[], rfl, rfl, [], rfl, rfl⟩
  | row :: rows, h => by
    obtain ⟨⟨w, hread, hw⟩, hrows⟩ := List.forall_mem_cons.1 h
    obtain ⟨ws, hreads, hlen, hws⟩ := settles_rows hrows
    refine ⟨w :: ws, ?_, congrArg (· + 1) hlen, ?_⟩
    · rw [List.mapM_cons, hread, hreads]
      rfl
    · -- The words of a row are looked up before those of the next.
      rw [List.mapM_cons]
      refine hw.cons fun a ha => hws.map fun as has => ?_
      rw [List.map_cons, List.map_cons, ha, has]

/-- A list is read where its first fault is told, and else its entities stand for the rows. -/
theorem reads_of_settles (h : Settles (rows.findSome? l.fault?) result
    fun as => as.map l.row = rows.map l.stored) : l.Reads none rows result where
  ok_iff := by simpa using h.ok_iff.trans faults_eq_none
  kept _ := h.of_ok
  error_iff e := by simpa using h.error_iff.trans faults_eq_some

/-- What refuses a list without rows makes no difference to other lists. -/
theorem Reads.of_ne_nil (h : l.Reads none rows result) (hne : rows ≠ [])
    (refusal : Option StoreError) : l.Reads refusal rows result where
  ok_iff := by simpa [hne] using h.ok_iff
  kept := h.kept
  error_iff := by simpa [hne] using h.error_iff

/-- A list without rows is refused where it may be. -/
theorem reads_refused (e : StoreError) : l.Reads (some e) [] (.error e) where
  ok_iff := by simp
  kept := nofun
  error_iff e' := by simp [FirstBad]

end Layout

/-- The lines of an offer are locked. -/
def lockLinesQuery (offer : Int) : Query :=
  ⟨.select {
      columns := lineColumns, table := lineTable, conditions := [equals "offer_id" 1]
      order := [.ascending "id"], lock := some .noWait }, [.int offer]⟩

/-- The offers for a request, the newest first. -/
def offersOfRequestQuery (request : Int) : Query :=
  ⟨.select {
      columns := offerColumns, table := offerTable, conditions := [equals "request_id" 1]
      order := newestOrder }, [.int request]⟩

/-- The calls that read a list of rows, each with its query. The lines of an offer are not locked
where there are none, and without requests to look for nothing is sent. -/
inductive Lists : {α : Type} → Layout α → Option StoreError → Query → Work (List α) → Prop
  | requests (f : RequestFilter) (page : Page) :
    Lists .requests none (listRequestsQuery f page) (script (.listRequests f page))
  | aboveRate (rate : Decimal) (limit : Int) :
    Lists .requests none
      (claimQuery ⟨"loan_rate", .ge, .bound 1⟩ (some (.bound 2)) [.decimal rate, .int limit])
      (script (.claimAboveRate rate limit))
  | ofSymbol (symbol : Int) :
    Lists .requests none (claimQuery (equals "symbol_id" 1) none [.int symbol])
      (script (.claimBySymbol symbol))
  | offersOfRequest (request : Int) :
    Lists .offers none (offersOfRequestQuery request) (script (.offersOfRequest request))
  | expiredOffers (now : Instant) :
    Lists .offers none (expiredOffersQuery now) (script (.expiredOffers now))
  | linesOfRequests {ids : List Int} (h : ids ≠ []) :
    Lists .lines none (linesQuery (among "request_id" 1) (.ints ids))
      (script (.linesOfRequests ids))
  | lockedLines (offer : Int) :
    Lists .lines (some (.notFound "offer" offer)) (lockLinesQuery offer)
      (script (.lockLinesOfOffer offer))
  | jobs (kind : Option JobKind) (limit : Int) :
    Lists .jobs none (listJobsQuery kind limit) (script (.listJobs kind limit))

variable {replies : Replies}

/-- All rows of a reply are read, or the first fault among them is told. -/
theorem settles_allOf {α : Type} {l : Layout α} (hl : ∀ {row}, l.Formed row → l.Decodes row)
    {q : Query} {rows : List Row} (h : replies q = .ok (.rows rows))
    (hrows : ∀ row ∈ rows, l.Formed row) :
    Settles (rows.findSome? l.fault?) (outcome replies (allOf l.read plainly q))
      fun as => as.map l.row = rows.map l.stored := by
  obtain ⟨ws, hread, -, hws⟩ := Layout.settles_rows fun row hrow => hl (hrows row hrow)
  rw [outcome_allOf_words passes_plainly h hread]
  exact hws

/-- A query for a list is read as the rows of its reply. -/
theorem reads_allOf {α : Type} {l : Layout α} (hl : ∀ {row}, l.Formed row → l.Decodes row)
    {q : Query} {rows : List Row} (h : replies q = .ok (.rows rows))
    (hrows : ∀ row ∈ rows, l.Formed row) :
    l.Reads none rows (outcome replies (allOf l.read plainly q)) :=
  Layout.reads_of_settles (settles_allOf hl h hrows)

/-- The lines of an offer are read when they are locked, and it is refused to lock none. -/
theorem reads_lockLines {offer : Int} {rows : List Row}
    (h : replies (lockLinesQuery offer) = .ok (.rows rows))
    (hrows : ∀ row ∈ rows, Layout.lines.Formed row) :
    Layout.lines.Reads (some (.notFound "offer" offer)) rows
      (outcome replies (script (.lockLinesOfOffer offer))) := by
  obtain ⟨ws, hread, hlen, hws⟩ := Layout.settles_rows fun row hrow => decodes_line (hrows row hrow)
  have hlocked : outcome replies (script (.lockLinesOfOffer offer)) =
      if ws.isEmpty then .error (.notFound "offer" offer) else ws.mapM id := by
    have hfirst : outcome replies (about "offer" offer do
        let rows ← fetchAll (lockLinesQuery offer)
        ofDatabase (rows.mapM Layout.lines.read)) = .ok ws :=
      passes_about _ _ _ _ (outcome_readAll h hread)
    change outcome replies (about "offer" offer (do
      let rows ← fetchAll (lockLinesQuery offer)
      ofDatabase (rows.mapM Layout.lines.read)) >>= _) = _
    rw [outcome_bind, hfirst]
    cases ws <;> rfl
  rw [hlocked]
  cases rows with
  | nil =>
    rw [List.length_eq_zero_iff.1 hlen]
    exact Layout.reads_refused _
  | cons row rows =>
    have hne : ws ≠ [] := fun he => by simp [he] at hlen
    rw [if_neg (by simpa using hne)]
    exact (Layout.reads_of_settles hws).of_ne_nil (List.cons_ne_nil _ _) _

/-- Every query for a list is read as the rows of its reply. -/
theorem Lists.reads {α : Type} {l : Layout α} {refusal : Option StoreError} {q : Query}
    {w : Work (List α)} {rows : List Row} (hw : Lists l refusal q w)
    (h : replies q = .ok (.rows rows)) (hrows : ∀ row ∈ rows, l.Formed row) :
    l.Reads refusal rows (outcome replies w) := by
  cases hw with
  | requests | aboveRate | ofSymbol => exact reads_allOf decodes_request h hrows
  | offersOfRequest | expiredOffers => exact reads_allOf decodes_offer h hrows
  | linesOfRequests hids =>
    rw [script, if_neg (by simpa using hids)]
    exact reads_allOf decodes_line h hrows
  | lockedLines => exact reads_lockLines h hrows
  | jobs => exact reads_allOf decodes_job h hrows

end Sql
end LoanDesk
