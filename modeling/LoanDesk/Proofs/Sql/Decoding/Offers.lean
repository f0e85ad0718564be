/-
# How the offers to an investor are put together

The offers to an investor are put together from three lists of rows, which are read one after another
(`Gathers`): the first wrong text among the offers, then the requests, then the lines is told, and
then the first offer without its request (`gathers_offersOfInvestor`).
-/

import LoanDesk.Proofs.Sql.Decoding.Lists

namespace LoanDesk
namespace Sql

variable {replies : Replies}

/-! ### The offers to an investor -/

/-- The numbers in a column. -/
def numbers (column : String) (rows : List Row) : List Int := rows.filterMap (intAt? · column)

/-- The error tells the first offer whose request is not among the requests. -/
def Lacks (os rs : List Row) (e : StoreError) : Prop :=
  ∃ before n after, numbers "request_id" os = before ++ n :: after ∧
    (∀ m ∈ before, m ∈ numbers "id" rs) ∧ n ∉ numbers "id" rs ∧ e = .notFound "request" n

/-- Offers are put together from three lists of rows, of offers, of requests and of lines. -/
structure Assembled (os rs ls : List Row) (ds : List OfferDetails) : Prop where
  offers : ds.map (fun d => Layout.offers.row d.offer) = os.map Layout.offers.stored
  requests : ∀ d ∈ ds, d.request.id = d.offer.request ∧
    ∃ row ∈ rs, Layout.requests.row d.request = Layout.requests.stored row
  /-- Where offers have numbers of their own each has all of its lines, in their order. -/
  lines : (numbers "id" os).Nodup → ∀ d ∈ ds, d.lines.map Layout.lines.row =
    (ls.filter (intAt? · "offer_id" == some d.offer.id)).map Layout.lines.stored

/-- What three lists of rows are put together to, of offers, of requests and of lines. Without
offers the others are not looked at. -/
structure Gathers (os rs ls : List Row) (result : Except StoreError (List OfferDetails)) :
    Prop where
  /-- There is a result if and only if all texts name something and every offer has a request. -/
  ok_iff : (∃ ds, result = .ok ds) ↔ (∀ row ∈ os, Layout.offers.Spelt row) ∧
    (os ≠ [] → (∀ row ∈ rs, Layout.requests.Spelt row) ∧ (∀ row ∈ ls, Layout.lines.Spelt row) ∧
      ∀ n ∈ numbers "request_id" os, n ∈ numbers "id" rs)
  /-- The offers stand for the rows of offers, one for each and in their order, with what stands in
  the rows of their requests and lines. -/
  kept : ∀ ds, result = .ok ds → Assembled os rs ls ds
  /-- The first text that names nothing is told, of the offers, then of the requests, then of the
  lines. -/
  error_iff : ∀ e, result = .error e ↔ Layout.offers.FirstBad os e ∨
    ((∀ row ∈ os, Layout.offers.Spelt row) ∧ os ≠ [] ∧ (Layout.requests.FirstBad rs e ∨
      ((∀ row ∈ rs, Layout.requests.Spelt row) ∧ (Layout.lines.FirstBad ls e ∨
        ((∀ row ∈ ls, Layout.lines.Spelt row) ∧ Lacks os rs e)))))

/-- What is wrong with a number that is not known. -/
def missing? (known : List Int) (n : Int) : Option StoreError :=
  if n ∈ known then none else some (.notFound "request" n)

/-- A known number is not missing. -/
theorem missing?_eq_none {known : List Int} {n : Int} : missing? known n = none ↔ n ∈ known := by
  simp [missing?]

/-- A number that is not known is told to be missing. -/
theorem missing?_eq_some {known : List Int} {n : Int} {e : StoreError} :
    missing? known n = some e ↔ n ∉ known ∧ e = .notFound "request" n := by
  simp [missing?, eq_comm]

/-- The first request that is missing is told. -/
theorem missing_eq_some {os rs : List Row} {e : StoreError} :
    (numbers "request_id" os).findSome? (missing? (numbers "id" rs)) = some e ↔ Lacks os rs e := by
  rw [List.findSome?_eq_some_iff]
  simp only [missing?_eq_none, missing?_eq_some]
  constructor
  · rintro ⟨before, n, after, hns, hn, hbefore⟩
    exact ⟨before, n, after, hns, hbefore, hn⟩
  · rintro ⟨before, n, after, hns, hbefore, hn⟩
    exact ⟨before, n, after, hns, hn, hbefore⟩

/-- The request of a number, which has to be there. -/
def requestAmong (requests : List Request) (n : Int) : Words Request :=
  match requests.reverse.find? (·.id == n) with
  | some r => .ok r
  | none => .error (.notFound "request" n)

/-- The request of a number is found, or it is missing. -/
theorem settles_requestAmong (requests : List Request) (n : Int) :
    Settles (missing? (requests.map (·.id)) n) (requestAmong requests n)
      fun r => r ∈ requests ∧ r.id = n := by
  rw [requestAmong]
  cases hfind : requests.reverse.find? (·.id == n) with
  | none =>
    rw [missing?_eq_some.2 ⟨by simpa using hfind, rfl⟩]
    rfl
  | some r =>
    have hmem : r ∈ requests := List.mem_reverse.1 (List.mem_of_find?_eq_some hfind)
    have hid : r.id = n := by simpa using List.find?_some hfind
    rw [missing?_eq_none.2 (List.mem_map.2 ⟨r, hmem, hid⟩)]
    exact ⟨r, rfl, hmem, hid⟩

/-- Each offer has its request and, unless its number was seen before, all of its lines. -/
structure Joins (requests : List Request) (lines : List Line) (seen : List Int) (os : List Offer)
    (ds : List OfferDetails) : Prop where
  offers : ds.map (·.offer) = os
  requests : ∀ d ∈ ds, d.request ∈ requests ∧ d.request.id = d.offer.request
  lines : (os.map (·.id)).Nodup → (∀ n ∈ os.map (·.id), n ∉ seen) →
    ∀ d ∈ ds, d.lines = lines.filter (·.offer == d.offer.id)

/-- One more offer in front, with its request. -/
theorem Joins.cons {requests : List Request} {lines : List Line} {seen : List Int} {o : Offer}
    {os : List Offer} {ds : List OfferDetails} (h : Joins requests lines (o.id :: seen) os ds)
    {r : Request} (hr : r ∈ requests ∧ r.id = o.request) : Joins requests lines seen (o :: os)
      (⟨o, r, if seen.contains o.id then [] else lines.filter (·.offer == o.id)⟩ :: ds) where
  offers := congrArg (o :: ·) h.offers
  requests := List.forall_mem_cons.2 ⟨hr, h.requests⟩
  lines := by
    intro hn hseen
    obtain ⟨hnot, hn⟩ := List.nodup_cons.1 hn
    obtain ⟨hfirst, hrest⟩ := List.forall_mem_cons.1 hseen
    have hunseen : ¬seen.contains o.id := by simpa using hfirst
    refine List.forall_mem_cons.2 ⟨if_neg hunseen, h.lines hn fun n hmem hcons => ?_⟩
    rcases List.mem_cons.1 hcons with rfl | hold
    · exact hnot hmem
    · exact hrest n hmem hold

/-- Offers are put together in their order, as long as each has its request. -/
theorem settles_details {requests : List Request} {lines : List Line} (os : List Offer)
    (seen : List Int) : Settles ((os.map (·.request)).findSome? (missing? (requests.map (·.id))))
      (details requests lines seen os) (Joins requests lines seen os) := by
  induction os generalizing seen with
  | nil => exact ⟨[], rfl, rfl, List.forall_mem_nil _, fun _ _ => List.forall_mem_nil _⟩
  | cons o os ih =>
    have hstep : details requests lines seen (o :: os) =
        requestAmong requests o.request >>= fun r =>
          details requests lines (o.id :: seen) os >>= fun ds => pure
            (⟨o, r, if seen.contains o.id then [] else lines.filter (·.offer == o.id)⟩ :: ds) := by
      rw [details, requestAmong]
      cases requests.reverse.find? (·.id == o.request) <;> rfl
    rw [hstep]
    refine (settles_requestAmong requests o.request).cons fun r hr => ?_
    exact (ih (o.id :: seen)).map fun ds hds => hds.cons hr

/-- Numbers are read as they stand in the rows. -/
theorem map_eq_numbers {α : Type} {l : Layout α} {column : String} {number : α → Int}
    (hrow : ∀ a, intAt? (l.row a) column = some (number a))
    (hstored : ∀ row, intAt? (l.stored row) column = intAt? row column) {as : List α}
    {rows : List Row} (h : as.map l.row = rows.map l.stored) :
    as.map number = numbers column rows := by
  have hnumbers := congrArg (numbers column) h
  simp only [numbers, List.filterMap_map, Function.comp_def, hrow, hstored] at hnumbers
  rw [numbers, ← hnumbers]
  exact (congrFun List.filterMap_eq_map' as).symm

/-- The script asks for offers, then for their requests, then for their lines, and puts them
together. -/
theorem outcome_offersOfInvestor (investor : Int) :
    outcome replies (script (.offersOfInvestor investor)) =
      outcome replies (allOf readOffer plainly (offersOfInvestorQuery investor)) >>= fun offers =>
        if offers.isEmpty then .ok []
        else outcome replies (allOf readRequest plainly (requestsOfInvestorQuery investor)) >>=
          fun requests => outcome replies (allOf readLine plainly
            (linesQuery (among "offer_id" 1) (.ints (offers.map (·.id))))) >>=
              fun lines => details requests lines [] offers := by
  rw [script, offersOfInvestor, outcome_bind]
  congr 1
  funext offers
  split
  · rfl
  · rw [outcome_bind]
    congr 1
    funext requests
    rw [outcome_bind]
    rfl

/-- What is put together of entities stands for the rows of these. -/
theorem Joins.assembled {os rs ls : List Row} {offers : List Offer} {requests : List Request}
    {lines : List Line} {ds : List OfferDetails} (h : Joins requests lines [] offers ds)
    (hos : offers.map Layout.offers.row = os.map Layout.offers.stored)
    (hrs : requests.map Layout.requests.row = rs.map Layout.requests.stored)
    (hls : lines.map Layout.lines.row = ls.map Layout.lines.stored)
    (hids : offers.map (·.id) = numbers "id" os) : Assembled os rs ls ds where
  offers := by
    rw [← hos, ← h.offers, List.map_map]
    rfl
  requests := by
    intro d hd
    obtain ⟨hmem, hid⟩ := h.requests d hd
    obtain ⟨row, hrow, hstored⟩ := List.mem_map.1 (hrs ▸ List.mem_map_of_mem hmem)
    exact ⟨hid, row, hrow, hstored.symm⟩
  lines := by
    intro hn d hd
    have hrow : ∀ row, (intAt? (Layout.lines.stored row) "offer_id" == some d.offer.id) =
        (intAt? row "offer_id" == some d.offer.id) := fun row => by
      rw [Layout.stored_eq_project rfl]
      rfl
    have hown : (lines.map Layout.lines.row).filter (intAt? · "offer_id" == some d.offer.id) =
        (lines.filter (·.offer == d.offer.id)).map Layout.lines.row :=
      filter_map_of (fun _ => rfl) _
    rw [h.lines (hids ▸ hn) (fun _ _ => List.not_mem_nil) d hd, ← hown, hls, filter_map_of hrow]

/-- The offers of an investor are put together, or the first fault is told. -/
theorem settles_offersOfInvestor {investor : Int} {os rs ls : List Row}
    (hos : replies (offersOfInvestorQuery investor) = .ok (.rows os))
    (hrs : replies (requestsOfInvestorQuery investor) = .ok (.rows rs))
    (hls : replies (linesQuery (among "offer_id" 1) (.ints (numbers "id" os))) = .ok (.rows ls))
    (hofferRows : ∀ row ∈ os, Layout.offers.Formed row)
    (hrequestRows : ∀ row ∈ rs, Layout.requests.Formed row)
    (hlineRows : ∀ row ∈ ls, Layout.lines.Formed row) :
    Settles ((os.findSome? Layout.offers.fault?).or (if os = [] then none else
        (rs.findSome? Layout.requests.fault?).or ((ls.findSome? Layout.lines.fault?).or
          ((numbers "request_id" os).findSome? (missing? (numbers "id" rs))))))
      (outcome replies (script (.offersOfInvestor investor))) (Assembled os rs ls) := by
  rw [outcome_offersOfInvestor]
  refine (settles_allOf decodes_offer hos hofferRows).bind fun offers hoffers => ?_
  have hids : offers.map (·.id) = numbers "id" os :=
    map_eq_numbers (fun _ => rfl) (fun row => by rw [stored_offer]; rfl) hoffers
  have hlinks : offers.map (·.request) = numbers "request_id" os :=
    map_eq_numbers (fun _ => rfl) (fun row => by rw [stored_offer]; rfl) hoffers
  have hempty : offers.isEmpty ↔ os = [] := by
    have hlen : offers.length = os.length := by simpa using congrArg List.length hoffers
    rw [List.isEmpty_iff, ← List.length_eq_zero_iff, hlen, List.length_eq_zero_iff]
  -- Without offers nothing more is sent, so that nothing else can be wrong.
  by_cases hnone : os = []
  · rw [if_pos hnone, if_pos (hempty.2 hnone), hnone]
    exact ⟨[], rfl, rfl, List.forall_mem_nil _, fun _ => List.forall_mem_nil _⟩
  · rw [if_neg hnone, if_neg (mt hempty.1 hnone), hids]
    refine (settles_allOf decodes_request hrs hrequestRows).bind fun requests hrequests => ?_
    refine (settles_allOf decodes_line hls hlineRows).bind fun lines hlines => ?_
    have hknown : requests.map (·.id) = numbers "id" rs :=
      map_eq_numbers (fun _ => rfl) (fun row => by rw [Layout.stored_eq_project rfl]; rfl) hrequests
    rw [← hlinks, ← hknown]
    exact (settles_details offers []).imp fun ds hds => hds.assembled hoffers hrequests hlines hids

/-- The offers of an investor are gathered from three lists of rows. -/
theorem gathers_offersOfInvestor {investor : Int} {os rs ls : List Row}
    (hos : replies (offersOfInvestorQuery investor) = .ok (.rows os))
    (hrs : replies (requestsOfInvestorQuery investor) = .ok (.rows rs))
    (hls : replies (linesQuery (among "offer_id" 1) (.ints (numbers "id" os))) = .ok (.rows ls))
    (hofferRows : ∀ row ∈ os, Layout.offers.Formed row)
    (hrequestRows : ∀ row ∈ rs, Layout.requests.Formed row)
    (hlineRows : ∀ row ∈ ls, Layout.lines.Formed row) :
    Gathers os rs ls (outcome replies (script (.offersOfInvestor investor))) := by
  have h := settles_offersOfInvestor hos hrs hls hofferRows hrequestRows hlineRows
  refine ⟨h.ok_iff.trans ?_, fun ds => h.of_ok, fun e => h.error_iff.trans ?_⟩
  · rw [Option.or_eq_none_iff, Layout.faults_eq_none]
    refine and_congr_right fun _ => ?_
    by_cases hnone : os = []
    · simp [hnone]
    · simp [hnone, Layout.fault?_eq_none, missing?_eq_none]
  · rw [Option.or_eq_some_iff, Layout.faults_eq_some, Layout.faults_eq_none]
    refine or_congr_right (and_congr_right fun _ => ?_)
    by_cases hnone : os = []
    · simp [hnone]
    · simp [hnone, Option.or_eq_some_iff, Layout.fault?_eq_none, Layout.faults_eq_some,
        missing_eq_some]

end Sql
end LoanDesk
