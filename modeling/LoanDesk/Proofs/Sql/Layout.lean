/-
# How a row is read

A row is read if and only if all of its texts are words, letter by letter. Written back, what is read
gives the values of the row (`Layout.stored`), but for a flow that is not specified: it is stored as
nothing, also where its word stood in the row. Otherwise the first column with another text is told
(`Layout.Blames`). Nothing else is read in place of a text that names nothing. Each kind of row has a
lemma on that (`Layout.Decodes`).
-/

import LoanDesk.Proofs.Sql.Layout.Words

namespace LoanDesk
namespace Sql
namespace Layout

variable {α : Type} {l : Layout α} {row : Row} {e : StoreError}

/-! ### One row -/

/-- A row is read as what stands in it, or its first fault is told. -/
def Decodes (l : Layout α) (row : Row) : Prop :=
  ∃ w, l.read row = .ok w ∧ Settles (l.fault? row) w fun a => l.row a = l.stored row

/-- A column that may not be empty holds a value of its type. -/
theorem Formed.exists_value (h : l.Formed row) (c : String) (t : ColumnType)
    (hc : c ∈ l.columns ∧ c ∉ l.optional ∧ ColumnType.ofName c = t) :
    ∃ x, cell row c = t.value x := by
  obtain ⟨hmem, hopt, rfl⟩ := hc
  exact ColumnType.exists_of_has ((h c hmem).resolve_right fun hnull => hopt hnull.1)

/-- A column holds a value of its type, or it is empty. -/
theorem Formed.exists_ofOption (h : l.Formed row) (c : String) (t : ColumnType)
    (hc : c ∈ l.columns ∧ ColumnType.ofName c = t) :
    ∃ x? : Option t.Carrier, cell row c = .ofOption t.value x? := by
  obtain ⟨hmem, rfl⟩ := hc
  rcases h c hmem with hhas | ⟨-, hnull⟩
  · obtain ⟨x, hx⟩ := ColumnType.exists_of_has hhas
    exact ⟨some x, hx⟩
  · exact ⟨none, Value.eq_null hnull⟩

/-- A value is stored as it is in a column whose words are all written. -/
theorem storedValue_of_notMem {c : String} (h : c ∉ l.unwritten.map Prod.fst) (v : Value) :
    l.storedValue c v = v := by
  cases v with
  | text s => exact if_neg fun hmem => h (List.mem_map_of_mem hmem)
  | _ => rfl

/-- Where every word is written a row is stored as it was. -/
theorem stored_eq_project (h : l.unwritten = []) (row : Row) :
    l.stored row = project l.columns row := by
  refine List.map_congr_left fun c _ => ?_
  rw [storedValue_of_notMem (by simp [h])]

end Layout

/-- A decimal that may be missing is read from its column. -/
theorem decimalAt?_of_cell {row : Row} {column : String} {d? : Option Decimal}
    (h : cell row column = .ofOption .decimal d?) : decimalAt? row column = d? := by
  rw [decimalAt?, h]
  cases d? <;> rfl

/-- An object is read from its column. -/
theorem jsonAt_of_cell {row : Row} {column : String} {j : Json} (h : cell row column = .json j) :
    jsonAt row column = .ok j := by
  rw [jsonAt, h]

/-- A row of a request is read as what stands in it. -/
theorem decodes_request {row : Row} (h : Layout.requests.Formed row) :
    Layout.requests.Decodes row := by
  obtain ⟨id, hid⟩ := h.exists_value "id" .int (by decide)
  obtain ⟨symbol, hsymbol⟩ := h.exists_value "symbol_id" .int (by decide)
  obtain ⟨investor, hinvestor⟩ := h.exists_value "investor_id" .int (by decide)
  obtain ⟨account, haccount⟩ := h.exists_value "account_no" .text (by decide)
  obtain ⟨rate, hrate⟩ := h.exists_value "loan_rate" .decimal (by decide)
  obtain ⟨limit, hlimit⟩ := h.exists_value "limit_amount" .decimal (by decide)
  obtain ⟨kind, hkind⟩ := h.exists_value "request_type" .text (by decide)
  obtain ⟨asset, hasset⟩ := h.exists_value "asset_type" .text (by decide)
  obtain ⟨initial, hinitial⟩ := h.exists_ofOption "initial_rate" .decimal (by decide)
  obtain ⟨size, hsize⟩ := h.exists_ofOption "contract_size" .int (by decide)
  obtain ⟨status, hstatus⟩ := h.exists_value "status" .text (by decide)
  obtain ⟨created, hcreated⟩ := h.exists_value "created_at" .time (by decide)
  obtain ⟨updated, hupdated⟩ := h.exists_value "updated_at" .time (by decide)
  have hread : readRequest row = .ok (do
      let kind ← word requestTable kind
      let asset ← word requestTable asset
      let status ← word requestTable status
      return ⟨id, symbol, investor, account, rate, limit, kind, asset, initial, size, status, created,
        updated⟩) := by
    rw [readRequest, intAt_eq_ok.2 hid, intAt_eq_ok.2 hsymbol, intAt_eq_ok.2 hinvestor,
      textAt_eq_ok.2 haccount, decimalAt_eq_ok.2 hrate, decimalAt_eq_ok.2 hlimit,
      textAt_eq_ok.2 hkind, textAt_eq_ok.2 hasset, textAt_eq_ok.2 hstatus, timeAt_eq_ok.2 hcreated,
      timeAt_eq_ok.2 hupdated, decimalAt?_of_cell hinitial, intAt?_of_cell hsize]
    rfl
  refine ⟨_, hread, ?_⟩
  refine (WordColumn.settles hkind).cons fun kind hk => ?_
  refine (WordColumn.settles hasset).cons fun asset ha => ?_
  refine (WordColumn.settles hstatus).cons fun status hs => ⟨_, rfl, ?_⟩
  subst hk ha hs
  rw [Layout.stored_eq_project rfl]
  simp only [Layout.requests, project, requestColumns, requestRow, List.map_cons, List.map_nil, *]
  rfl

/-- Of the columns of an offer only that of the flow has a word that is not written. -/
theorem stored_offer (row : Row) : Layout.offers.stored row =
    [("id", cell row "id"), ("request_id", cell row "request_id"),
      ("offered_by", cell row "offered_by"),
      ("flow_type", Layout.offers.storedValue "flow_type" (cell row "flow_type")),
      ("expired_at", cell row "expired_at"), ("created_at", cell row "created_at")] := by
  have hkeeps : ∀ c, c ≠ "flow_type" → Layout.offers.storedValue c (cell row c) = cell row c :=
    fun c hc => Layout.storedValue_of_notMem (by simpa [Layout.offers] using hc) _
  simp only [Layout.stored, show Layout.offers.columns = offerColumns from rfl, offerColumns,
    List.map_cons, List.map_nil]
  rw [hkeeps "id" (by decide), hkeeps "request_id" (by decide), hkeeps "offered_by" (by decide),
    hkeeps "expired_at" (by decide), hkeeps "created_at" (by decide)]

/-- Nothing is read as a flow that is not specified, and this is stored as nothing. -/
theorem decodes_offer {row : Row} (h : Layout.offers.Formed row) : Layout.offers.Decodes row := by
  obtain ⟨id, hid⟩ := h.exists_value "id" .int (by decide)
  obtain ⟨request, hrequest⟩ := h.exists_value "request_id" .int (by decide)
  obtain ⟨offeredBy, hoffered⟩ := h.exists_value "offered_by" .text (by decide)
  obtain ⟨flow?, hflow⟩ := h.exists_ofOption "flow_type" .text (by decide)
  obtain ⟨expired, hexpired⟩ := h.exists_ofOption "expired_at" .time (by decide)
  obtain ⟨created, hcreated⟩ := h.exists_value "created_at" .time (by decide)
  have hread : readOffer row = .ok (do
      let flow ← match flow? with
        | some text => word offerTable text
        | none => pure .unspecified
      return ⟨id, request, offeredBy, flow, expired, created⟩) := by
    rw [readOffer, intAt_eq_ok.2 hid, intAt_eq_ok.2 hrequest, textAt_eq_ok.2 hoffered,
      timeAt_eq_ok.2 hcreated, textAt?_of_cell hflow, timeAt?_of_cell hexpired]
    rfl
  refine ⟨_, hread, ?_⟩
  cases flow? with
  | none =>
    -- Where there is no text there is none to be wrong.
    have hspelt : Layout.offers.Spelt row := by
      refine List.forall_mem_singleton.2 fun s hs => ?_
      cases hflow.symm.trans hs
    rw [Layout.fault?_eq_none.2 hspelt]
    refine ⟨_, rfl, ?_⟩
    rw [stored_offer, hid, hrequest, hoffered, hflow, hexpired, hcreated]
    rfl
  | some text =>
    refine (WordColumn.settles hflow).cons fun flow hword => ⟨_, rfl, ?_⟩
    rw [stored_offer, hid, hrequest, hoffered, hflow, hexpired, hcreated, hword]
    cases flow <;> rfl

/-- A row of a line is read as what stands in it. -/
theorem decodes_line {row : Row} (h : Layout.lines.Formed row) : Layout.lines.Decodes row := by
  obtain ⟨id, hid⟩ := h.exists_value "id" .int (by decide)
  obtain ⟨offer, hoffer⟩ := h.exists_value "offer_id" .int (by decide)
  obtain ⟨request, hrequest⟩ := h.exists_value "request_id" .int (by decide)
  obtain ⟨loan, hloan⟩ := h.exists_value "loan_id" .int (by decide)
  obtain ⟨group, hgroup⟩ := h.exists_ofOption "score_group_id" .int (by decide)
  obtain ⟨limit, hlimit⟩ := h.exists_value "limit_amount" .decimal (by decide)
  obtain ⟨rate, hrate⟩ := h.exists_value "loan_rate" .decimal (by decide)
  obtain ⟨interest, hinterest⟩ := h.exists_value "interest_rate" .decimal (by decide)
  obtain ⟨term, hterm⟩ := h.exists_value "term_days" .int (by decide)
  obtain ⟨status, hstatus⟩ := h.exists_value "status" .text (by decide)
  obtain ⟨reason, hreason⟩ := h.exists_value "cancelled_reason" .text (by decide)
  obtain ⟨by_, hby⟩ := h.exists_ofOption "cancelled_by" .text (by decide)
  obtain ⟨cancelled, hcancelled⟩ := h.exists_ofOption "cancelled_at" .time (by decide)
  obtain ⟨contract, hcontract⟩ := h.exists_ofOption "contract_id" .int (by decide)
  obtain ⟨created, hcreated⟩ := h.exists_value "created_at" .time (by decide)
  obtain ⟨updated, hupdated⟩ := h.exists_value "updated_at" .time (by decide)
  have hread : readLine row = .ok (do
      let status ← word lineTable status
      let reason ← word lineTable reason
      return ⟨id, offer, request, loan, group, limit, rate, interest, term, status, reason, by_,
        cancelled, contract, created, updated⟩) := by
    rw [readLine, intAt_eq_ok.2 hid, intAt_eq_ok.2 hoffer, intAt_eq_ok.2 hrequest,
      intAt_eq_ok.2 hloan, decimalAt_eq_ok.2 hlimit, decimalAt_eq_ok.2 hrate,
      decimalAt_eq_ok.2 hinterest, intAt_eq_ok.2 hterm, textAt_eq_ok.2 hstatus,
      textAt_eq_ok.2 hreason, timeAt_eq_ok.2 hcreated, timeAt_eq_ok.2 hupdated,
      intAt?_of_cell hgroup, textAt?_of_cell hby, timeAt?_of_cell hcancelled,
      intAt?_of_cell hcontract]
    rfl
  refine ⟨_, hread, ?_⟩
  refine (WordColumn.settles hstatus).cons fun status hs => ?_
  refine (WordColumn.settles hreason).cons fun reason hr => ⟨_, rfl, ?_⟩
  subst hs hr
  rw [Layout.stored_eq_project rfl]
  simp only [Layout.lines, project, lineColumns, lineRow, List.map_cons, List.map_nil, *]
  rfl

/-- A row of a run is read as what stands in it. -/
theorem decodes_job {row : Row} (h : Layout.jobs.Formed row) : Layout.jobs.Decodes row := by
  obtain ⟨id, hid⟩ := h.exists_value "id" .int (by decide)
  obtain ⟨kind, hkind⟩ := h.exists_value "job_type" .text (by decide)
  obtain ⟨status, hstatus⟩ := h.exists_value "status" .text (by decide)
  obtain ⟨by_, hby⟩ := h.exists_value "triggered_by" .text (by decide)
  obtain ⟨tracking, htracking⟩ := h.exists_value "tracking_data" .json (by decide)
  obtain ⟨created, hcreated⟩ := h.exists_value "created_at" .time (by decide)
  have hread : readJob row = .ok (do
      let kind ← word jobTable kind
      let status ← word jobTable status
      return ⟨id, kind, status, by_, tracking, created⟩) := by
    rw [readJob, intAt_eq_ok.2 hid, textAt_eq_ok.2 hkind, textAt_eq_ok.2 hstatus,
      textAt_eq_ok.2 hby, jsonAt_of_cell htracking, timeAt_eq_ok.2 hcreated]
    rfl
  refine ⟨_, hread, ?_⟩
  refine (WordColumn.settles hkind).cons fun kind hk => ?_
  refine (WordColumn.settles hstatus).cons fun status hs => ⟨_, rfl, ?_⟩
  subst hk hs
  rw [Layout.stored_eq_project rfl]
  simp only [Layout.jobs, project, jobColumns, jobRow, List.map_cons, List.map_nil, *]
  rfl

end Sql
end LoanDesk
