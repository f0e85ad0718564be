/-
# Rows of one's own

What belongs to an investor are the requests of that investor, the offers for them and the lines of
these (`Rows.own`). A page that is narrowed to the investor, an overview of a request of one's own and
the offers to the investor are read off these rows alone, whatever else is stored.
-/

import LoanDesk.Proofs.Desk.Standings
import LoanDesk.Proofs.Http.Scope
import LoanDesk.Proofs.Store.Moves
import Mathlib.Data.List.Basic

namespace LoanDesk

instance {α : Type} [DecidableEq α] : DecidableEq (Table α) := fun t u =>
  decidable_of_iff (t.rows = u.rows) ⟨fun h => by cases t; cases u; cases h; rfl, congrArg _⟩

/-- A filter for an investor accepts requests of that investor only. -/
theorem RequestFilter.investor_of_accepts {f : RequestFilter} {investor : Int} {r : Request}
    (hf : f.investor = some investor) (h : f.accepts r) : r.investor = investor := by
  rw [accepts] at h
  simp only [hf, Bool.and_eq_true] at h
  exact beq_iff_eq.1 h.1.1.1.1.1.1.1.1.2

namespace Rows

/-- The request is there, and the investor has it. -/
def isOwn (rows : Rows) (investor request : Int) : Bool :=
  (rows.requests.get? request).any (·.investor == investor)

/-- What belongs to an investor: the requests, the offers for them and the lines of these. -/
def own (rows : Rows) (investor : Int) : Rows :=
  { empty with
    requests := rows.requests.filter (·.investor == investor)
    offers := rows.offers.filter fun o => rows.isOwn investor o.request
    lines := rows.lines.filter fun l => rows.isOwn investor l.request }

variable {rows : Rows} {investor : Int}

/-- The same rows are one's own if the requests, offers and lines are the same. -/
theorem own_eq_iff {rows' : Rows} : rows.own investor = rows'.own investor ↔
    (rows.own investor).requests = (rows'.own investor).requests ∧
      (rows.own investor).offers = (rows'.own investor).offers ∧
      (rows.own investor).lines = (rows'.own investor).lines := by
  simp only [own, Tables.mk.injEq, and_true]

instance (rows' : Rows) : Decidable (rows.own investor = rows'.own investor) :=
  decidable_of_iff' _ own_eq_iff

/-- A request is one's own if it is stored as the investor's. -/
theorem isOwn_iff {request : Int} : rows.isOwn investor request ↔
    ∃ r, rows.requests.get? request = some r ∧ r.investor = investor := by
  rw [isOwn, Option.any_eq_true]
  simp only [beq_iff_eq]

/-- A request of one's own is found among one's rows as among all. -/
theorem get?_own {request : Int} (h : rows.isOwn investor request) :
    (rows.own investor).requests.get? request = rows.requests.get? request := by
  obtain ⟨r, hr, hi⟩ := isOwn_iff.1 h
  rw [own, Table.get?_filter, hr]
  exact Option.filter_some_pos (by simpa using hi)

/-- A request that is not among one's rows is not stored, or somebody else has it. -/
theorem get?_own_eq_none {request : Int} : (rows.own investor).requests.get? request = none ↔
    rows.requests.get? request = none ∨ rows.isOthers investor request := by
  rw [own, Table.get?_filter, isOthers]
  cases rows.requests.get? request with
  | none => simp
  | some r => simp [Option.filter_eq_none_iff]

/-- A filter for an investor finds the same among one's rows as among all. -/
theorem requests_own {f : RequestFilter} (hf : f.investor = some investor) :
    (rows.own investor).requests.values.filter f.accepts = rows.requests.values.filter f.accepts := by
  rw [own]
  exact Table.filter_values_filter fun r _ hr =>
    beq_iff_eq.2 (RequestFilter.investor_of_accepts hf hr)

/-- Lines that are asked for by requests of one's own are one's own. -/
theorem lines_own {ids : List Int} (h : ∀ id ∈ ids, rows.isOwn investor id) :
    ((rows.own investor).lines.values.filter fun l => ids.contains l.request) =
      rows.lines.values.filter fun l => ids.contains l.request := by
  rw [own]
  exact Table.filter_values_filter fun l _ hl => h _ (by simpa using hl)

/-- An offer is shown to whom its request belongs to. -/
theorem details_own {last : Int} (hb : Book.Linked ⟨rows, last⟩) {o : Offer}
    (ho : o ∈ rows.offers.values) :
    (if rows.isOwn investor o.request then Store.details? (rows.own investor) investor o else none) =
      Store.details? rows investor o := by
  have hget : rows.offers.get? o.id = some o := hb.keyed.offers.mem_values.1 ho
  split
  · rename_i hown
    have hlines : ((rows.own investor).lines.values.filter (·.offer == o.id)) =
        rows.lines.values.filter (·.offer == o.id) := by
      rw [own]
      refine Table.filter_values_filter fun l hl he => ?_
      obtain ⟨k, hk⟩ := Table.mem_values.1 hl
      obtain ⟨o', ho', hreq⟩ := hb.line k l hk
      rw [beq_iff_eq.1 he, show rows.offers.get? o.id = some o from hget] at ho'
      rw [← hreq, ← Option.some.inj ho']
      exact hown
    rw [Store.details?, Store.details?, hlines, get?_own hown]
  · rename_i hown
    have hnone : (rows.requests.get? o.request).filter (·.investor == investor) = none := by
      rw [Option.filter_eq_none_iff]
      intro r hr hi
      exact hown (isOwn_iff.2 ⟨r, hr, by simpa using hi⟩)
    rw [Store.details?, hnone]
    rfl

/-- The offers with their requests are the same among one's rows as among all. -/
theorem offers_own {last : Int} (hb : Book.Linked ⟨rows, last⟩) :
    (rows.own investor).offers.values.filterMap (Store.details? (rows.own investor) investor) =
      rows.offers.values.filterMap (Store.details? rows investor) := by
  have hvalues : (rows.own investor).offers.values =
      rows.offers.values.filter fun o => rows.isOwn investor o.request := Table.values_filter _ _
  rw [hvalues, List.filterMap_filter]
  exact List.filterMap_congr fun o ho => details_own hb ho

end Rows

/-! ### What is read -/

namespace Rows

/-- The requests of a page. -/
def paged (rows : Rows) (f : RequestFilter) (page : Page) : List Request :=
  page.slice <| newestFirst (fun r => (r.createdAt, r.id)) <| rows.requests.values.filter f.accepts

/-- A page of requests with where they stand. -/
def overviews (rows : Rows) (f : RequestFilter) (page : Page) : OverviewPage :=
  let rs := rows.paged f page
  let lines := rows.linesOfAll (rs.map (·.id))
  ⟨rs.map fun r => .of r (lines.filter (·.request == r.id)),
    ((rows.requests.values.filter f.accepts).length : Int), page⟩

/-- The offers made to an investor. -/
def offersTo (rows : Rows) (investor : Int) : List OfferDetails :=
  newestFirst (fun d => (d.offer.createdAt, d.offer.id))
    (rows.offers.values.filterMap (Store.details? rows investor))

variable {rows : Rows} {investor : Int}

/-- The requests of a page are stored, and the filter accepts them. -/
theorem mem_paged {f : RequestFilter} {page : Page} {r : Request} (h : r ∈ rows.paged f page) :
    r ∈ rows.requests.values ∧ f.accepts r := by
  have hslice : r ∈ newestFirst (fun r => (r.createdAt, r.id))
      (rows.requests.values.filter f.accepts) := by
    unfold paged Page.slice at h
    dsimp only at h
    split at h <;> split at h
    · cases h
    · exact List.mem_of_mem_drop h
    · cases List.mem_of_mem_take h
    · exact List.mem_of_mem_drop (List.mem_of_mem_take h)
  exact List.mem_filter.1 (mem_newestFirst.1 hslice)

/-- **A page that is narrowed to an investor shows what belongs to the investor.** -/
theorem overviews_own (hk : rows.Keyed) {f : RequestFilter} (hf : f.investor = some investor)
    (page : Page) : (rows.own investor).overviews f page = rows.overviews f page := by
  have hpaged : (rows.own investor).paged f page = rows.paged f page := by
    rw [paged, paged, requests_own hf]
  have hown : ∀ id ∈ (rows.paged f page).map (·.id), rows.isOwn investor id := by
    intro id hid
    obtain ⟨r, hr, rfl⟩ := List.mem_map.1 hid
    obtain ⟨hmem, haccepts⟩ := mem_paged hr
    exact isOwn_iff.2 ⟨r, hk.requests.mem_values.1 hmem,
      RequestFilter.investor_of_accepts hf haccepts⟩
  simp only [overviews, hpaged, linesOfAll, lines_own hown, requests_own hf]

/-- An overview of a request of one's own shows what is one's own. -/
theorem overview_own {id : Int} (h : rows.isOwn investor id) :
    (rows.own investor).overview? id = rows.overview? id := by
  have hlines : (rows.own investor).linesOfAll [id] = rows.linesOfAll [id] :=
    congrArg (newestFirst _) (lines_own fun i hid => List.mem_singleton.1 hid ▸ h)
  rw [overview?, overview?, get?_own h, hlines]

/-- The offers to an investor are the same among one's rows as among all. -/
theorem offersTo_own {last : Int} (hb : Book.Linked ⟨rows, last⟩) :
    (rows.own investor).offersTo investor = rows.offersTo investor :=
  congrArg (newestFirst _) (offers_own hb)

end Rows

namespace Store

variable (s : Store) (tx : TxId)

/-- A second transaction leaves the view of the first as it is. -/
theorem view_begin_begin : s.begin.2.begin.2.view s.begin.1 = s.rows := by
  have hne : s.begin.1 ≠ s.begin.1 + 1 := Int.ne_of_lt (Int.lt_succ s.begin.1)
  have hchanges : s.begin.2.begin.2.changes s.begin.1 = s.begin.2.changes s.begin.1 :=
    (s.begin.2.changes_begin s.begin.1).trans (if_neg hne)
  rw [← s.view_begin, view, view, hchanges]
  rfl

/-- A page of requests is read off what the transaction sees. -/
theorem perform_listRequests (f : RequestFilter) (page : Page) :
    s.perform tx (.listRequests f page) = (.ok ((s.view tx).paged f page), s) := rfl

/-- The requests that a filter accepts are counted in what the transaction sees. -/
theorem perform_countRequests (f : RequestFilter) : s.perform tx (.countRequests f) =
    (.ok ((s.view tx).requests.values.filter f.accepts).length, s) := rfl

/-- The offers to an investor are read off what the transaction sees. -/
theorem perform_offersOfInvestor (investor : Int) :
    s.perform tx (.offersOfInvestor investor) = (.ok ((s.view tx).offersTo investor), s) := rfl

end Store

namespace Session

/-- A program without errors gives what it gives where it might have failed, too. -/
theorem run_lift {ε α : Type} (p : Program α) (s : Session) :
    Session.run (ExceptT.lift p : ExceptT ε Program α).run s =
      (.ok (Session.run p s).1, (Session.run p s).2) :=
  run_bind p (fun a => .done (Except.ok a)) s

variable (store : Store) (mailbox : Mailbox)

/-- A page of overviews is read off what is stored. -/
theorem run_listOverviews (f : RequestFilter) (page : Page) :
    (Session.run (Desk.listOverviews f page).run ⟨store, mailbox, []⟩).1 =
      .ok (store.rows.overviews f page) := by
  rw [Desk.listOverviews, run_look, run_look,
    run_bindExcept (run_ask (Store.perform_listRequests ..)),
    run_bindExcept (run_ask (Store.perform_countRequests ..)),
    run_bindExcept (run_ask (Store.perform_linesOfRequests ..)), Store.view_begin_begin,
    Store.view_begin]
  rfl

/-- The offers to an investor are read off what is stored. -/
theorem run_offersTo (investor : Int) :
    (Session.run (Desk.look fun tx => Desk.ask tx (.offersOfInvestor investor)).run
      ⟨store, mailbox, []⟩).1 = .ok (store.rows.offersTo investor) := by
  rw [run_look, run_ask (Store.perform_offersOfInvestor ..), Store.view_begin]

end Session

end LoanDesk
