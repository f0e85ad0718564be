/-
# What lists of rows come to

A list of rows is read word for word or its first wrong text is told, and so it is with the three
lists that the offers to an investor are put together from (`lists_decoded`).
-/

import LoanDesk.Proofs.Sql.Decoding.Offers

namespace LoanDesk
namespace Sql

/-! ### All lists -/

/-- **A list of rows is read as a whole, word for word, or its first wrong text is told.**  Whatever
texts stand in the rows that come back, a call that reads a list of requests, of offers, of lines or
of job records gives entities if and only if each text in a column of words is one of its words.
There is one entity for each row then, in the order of the rows, and what it is stored as again is
what the row holds, but that a flow that is not specified is stored as nothing; what is inserted is
stored in that way. Else the call fails, and tells the first row and in it the first column whose
text names nothing, with the table, the kind and the text. Where no row comes back the lines of an
offer are not locked, for want of the offer.

The offers to an investor are read from three such lists. The first wrong text among the offers,
then the requests, then the lines is told, and then the first offer without its request. -/
theorem lists_decoded :
    (∀ {α : Type} {l : Layout α} {refusal : Option StoreError} {q : Query} {w : Work (List α)},
      Lists l refusal q w → ∀ (replies : Replies) (rows : List Row),
        replies q = .ok (.rows rows) → (∀ row ∈ rows, l.Formed row) →
          l.Reads refusal rows (outcome replies w)) ∧
    (∀ (replies : Replies) (investor : Int) (os rs ls : List Row),
      replies (offersOfInvestorQuery investor) = .ok (.rows os) →
      replies (requestsOfInvestorQuery investor) = .ok (.rows rs) →
      replies (linesQuery (among "offer_id" 1) (.ints (numbers "id" os))) = .ok (.rows ls) →
      (∀ row ∈ os, Layout.offers.Formed row) → (∀ row ∈ rs, Layout.requests.Formed row) →
      (∀ row ∈ ls, Layout.lines.Formed row) →
        Gathers os rs ls (outcome replies (script (.offersOfInvestor investor)))) ∧
    (∀ (id : Int) (now : Instant),
      (∀ d, Writes (createRequestQuery d now) id (Layout.requests.row (d.toRequest id now))) ∧
      (∀ d, Writes (createOfferQuery d now) id (Layout.offers.row (d.toOffer id now))) ∧
      (∀ offer request d, Writes (createLinesQuery offer request [d] now) id
        (Layout.lines.row (d.toLine id offer request now))) ∧
      ∀ e, Writes (createJobQuery e now) id (Layout.jobs.row (e.toRecord id now))) := by
  refine ⟨fun hw replies rows h hrows => hw.reads h hrows, fun replies investor os rs ls => ?_,
    fun id now =>
      ⟨writes_request id now, writes_offer id now, writes_line id now, writes_job id now⟩⟩
  exact gathers_offersOfInvestor

namespace Story

/-- The row of an offer with this in the column of its flow. -/
def offerWith (flow : Value) : Row :=
  [("id", .int 2), ("request_id", .int 1), ("offered_by", .text "ops"), ("flow_type", flow),
    ("expired_at", .null), ("created_at", .time .epoch)]

/-- The row of request 1 with this text in the column of its status. -/
def requestWith (status : String) : Row :=
  [("id", .int 1), ("symbol_id", .int 5), ("investor_id", .int 7), ("account_no", .text "A-7"),
    ("loan_rate", .decimal .zero), ("limit_amount", .decimal .one),
    ("request_type", .text "FLEXIBLE"), ("asset_type", .text "UNDERLYING"),
    ("initial_rate", .null), ("contract_size", .null), ("status", .text status),
    ("created_at", .time .epoch), ("updated_at", .time .epoch)]

/-- A server that has these offers of an investor and these requests, and no lines. -/
def serving (os rs : List Row) : Replies := fun q =>
  match q.statement with
  | .join _ => .ok (.rows os)
  | .select s => .ok (.rows (if s.table = requestTable then rs else []))
  | _ => .ok (.rows [])

/-- The row of a job record with these texts. -/
def jobWith (kind status : String) : Row :=
  [("id", .int 3), ("job_type", .text kind), ("status", .text status),
    ("triggered_by", .text "cron"), ("tracking_data", .json (.obj [])),
    ("created_at", .time .epoch)]

/-- Offers without a flow and with the word for none are stored alike; of two bad rows the first is
told, and in it the first column. An offer is put together with its request. -/
theorem lists_decoded_misspelt :
    (∃ os, outcome (fun _ => .ok (.rows [offerWith .null, offerWith (.text "UNSPECIFIED"),
        offerWith (.text "ONLINE")])) (script (.offersOfRequest 1)) = .ok os ∧
      os.map offerRow = [offerWith .null, offerWith .null, offerWith (.text "ONLINE")]) ∧
    outcome (fun _ => .ok (.rows [jobWith "EXPIRE_OFFERS" "FAIL", jobWith "expire_offers" "failed",
        jobWith "EXPIRE_OFFERS" "ok"])) (script (.listJobs none 9)) =
      .error (.corrupt "scheduler_jobs" (.unknownWord "scheduler job type" "expire_offers")) ∧
    ∃ ds, outcome (serving [offerWith .null] [requestWith "CONFIRMED"])
        (script (.offersOfInvestor 7)) = .ok ds ∧
      ds.map (fun d => offerRow d.offer) = [offerWith .null] := by
  refine ⟨?_, ?_, ?_⟩
  · have hreads := lists_decoded.1 (.offersOfRequest 1)
      (fun _ => .ok (.rows [offerWith .null, offerWith (.text "UNSPECIFIED"),
        offerWith (.text "ONLINE")])) _ rfl (by decide)
    obtain ⟨os, hos⟩ := hreads.ok_iff.2 ⟨Layout.faults_eq_none.1 rfl, nofun⟩
    exact ⟨os, hos, hreads.kept os hos⟩
  · have hreads := lists_decoded.1 (.jobs none 9)
      (fun _ => .ok (.rows [jobWith "EXPIRE_OFFERS" "FAIL", jobWith "expire_offers" "failed",
        jobWith "EXPIRE_OFFERS" "ok"])) _ rfl (by decide)
    exact (hreads.error_iff _).2 (Or.inl (Layout.faults_eq_some.1 rfl))
  · have hgathers := lists_decoded.2.1 (serving [offerWith .null] [requestWith "CONFIRMED"]) 7 _ _ _
      rfl rfl rfl (by decide) (by decide) (List.forall_mem_nil _)
    obtain ⟨ds, hds⟩ := hgathers.ok_iff.2 ⟨Layout.faults_eq_none.1 rfl, fun _ =>
      ⟨Layout.faults_eq_none.1 rfl, List.forall_mem_nil _, by decide⟩⟩
    exact ⟨ds, hds, (hgathers.kept ds hds).offers⟩

/-- No text is wrong where no line comes back, and still the lines of offer 1 are not read; nor is
an offer put together whose request does not come back. -/
theorem spelt_rows_refused :
    (outcome (fun _ => .ok (.rows [])) (script (.lockLinesOfOffer 1)) =
        .error (.notFound "offer" 1) ∧
      ¬Layout.lines.Reads none []
        (outcome (fun _ => .ok (.rows [])) (script (.lockLinesOfOffer 1)))) ∧
    Layout.offers.Spelt (offerWith (.text "ONLINE")) ∧
      outcome (serving [offerWith (.text "ONLINE")] []) (script (.offersOfInvestor 7)) =
        .error (.notFound "request" 1) := by
  have hrefused : outcome (fun _ => .ok (.rows [])) (script (.lockLinesOfOffer 1)) =
      .error (.notFound "offer" 1) := rfl
  refine ⟨⟨hrefused, fun hreads => ?_⟩, Layout.fault?_eq_none.1 rfl, rfl⟩
  obtain ⟨ls, hls⟩ := hreads.ok_iff.2 ⟨List.forall_mem_nil _, fun _ => rfl⟩
  rw [hrefused] at hls
  cases hls

end Story

end Sql
end LoanDesk
