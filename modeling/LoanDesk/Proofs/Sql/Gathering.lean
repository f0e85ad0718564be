/-
# What queries gather

The offers to an investor are put together from three queries: the offers themselves, the requests of
the investor, and the lines of these offers in one list. The offers and the lines come as a store
sorts them. In that list the lines of one offer stand in their order (`filter_newestFirst`), and the
request of an offer is the only one of its number.
-/

import LoanDesk.Proofs.Sql.Gathering.Given

namespace LoanDesk

/-! ### The offers to an investor -/

namespace Rows

variable {rows : Rows} {investor : Int}

/-- An offer is shown with its request, which is one of the investor, and with all of its lines. -/
theorem details?_eq_some {o : Offer} {d : OfferDetails} :
    Store.details? rows investor o = some d ↔ d.offer = o ∧
      rows.requests.get? o.request = some d.request ∧ d.request.investor = investor ∧
      d.lines = newestFirst (fun l => (l.createdAt, l.id))
        (rows.lines.values.filter (·.offer == o.id)) := by
  rw [Store.details?, Option.bind_eq_bind, Option.bind_eq_some_iff]
  simp only [Option.filter_eq_some_iff, beq_iff_eq, pure, Option.some.injEq]
  constructor
  · rintro ⟨r, ⟨hr, hinvestor⟩, rfl⟩
    exact ⟨rfl, hr, hinvestor, rfl⟩
  · obtain ⟨o', r, lines⟩ := d
    rintro ⟨rfl, hr, hinvestor, hlines⟩
    exact ⟨r, ⟨hr, hinvestor⟩, congrArg (OfferDetails.mk o' r) hlines.symm⟩

/-- The offers to an investor are the stored ones for his requests. -/
theorem mem_offersTo (hk : rows.offers.Keyed Offer.id) {d : OfferDetails} :
    d ∈ rows.offersTo investor ↔ rows.offers.get? d.offer.id = some d.offer ∧
      rows.requests.get? d.offer.request = some d.request ∧ d.request.investor = investor ∧
      d.lines = newestFirst (fun l => (l.createdAt, l.id))
        (rows.lines.values.filter (·.offer == d.offer.id)) := by
  rw [offersTo, mem_newestFirst, List.mem_filterMap]
  simp only [details?_eq_some, hk.mem_values]
  constructor
  · rintro ⟨_, ho, rfl, h⟩
    exact ⟨ho, h⟩
  · rintro ⟨ho, h⟩
    exact ⟨_, ho, rfl, h⟩

/-- No two of the offers have one number. -/
theorem nodup_details (hk : rows.offers.Keyed Offer.id) :
    ((rows.offers.values.filterMap (Store.details? rows investor)).map (·.offer.id)).Nodup := by
  have hoffers : (rows.offers.values.filterMap (Store.details? rows investor)).map (·.offer) =
      rows.offers.values.filter fun o => (Store.details? rows investor o).isSome := by
    rw [List.map_filterMap, ← List.filterMap_eq_filter]
    congr 1
    funext o
    cases ho : Store.details? rows investor o with
    | none => simp [Option.guard, ho]
    | some d => simp [Option.guard, ho, (details?_eq_some.1 ho).1]
  have hids := hk.nodup_keys (hoffers ▸ List.filter_sublist)
  rw [List.map_map] at hids
  exact hids

/-- What an investor is shown of the rows. Every offer for one of the investor's requests is shown
once, and no others are, the newest first, each with its request and with all of its lines, the newest
first. -/
structure Shows (rows : Rows) (investor : Int) (ds : List OfferDetails) : Prop where
  newest : ds.Pairwise fun a b =>
    Instant.Newer (a.offer.createdAt, a.offer.id) (b.offer.createdAt, b.offer.id)
  offers : ∀ o, o ∈ ds.map (·.offer) ↔ rows.offers.get? o.id = some o ∧
    ∃ r, rows.requests.get? o.request = some r ∧ r.investor = investor
  requests : ∀ d ∈ ds, rows.requests.get? d.offer.request = some d.request
  lines : ∀ d ∈ ds, (d.lines.Pairwise fun a b =>
      Instant.Newer (a.createdAt, a.id) (b.createdAt, b.id)) ∧
    ∀ l, l ∈ d.lines ↔ rows.lines.get? l.id = some l ∧ l.offer = d.offer.id

/-- The store shows the offers to an investor as it should. -/
theorem shows_offersTo (hk : rows.Keyed) : rows.Shows investor (rows.offersTo investor) where
  newest := sorted_newestFirst (nodup_details hk.offers)
  offers := by
    intro o
    rw [List.mem_map]
    constructor
    · rintro ⟨d, hd, rfl⟩
      obtain ⟨ho, hr, hinvestor, -⟩ := (mem_offersTo hk.offers).1 hd
      exact ⟨ho, d.request, hr, hinvestor⟩
    · rintro ⟨ho, r, hr, hinvestor⟩
      exact ⟨⟨o, r, newestFirst (fun l => (l.createdAt, l.id))
        (rows.lines.values.filter (·.offer == o.id))⟩,
        (mem_offersTo hk.offers).2 ⟨ho, hr, hinvestor, rfl⟩, rfl⟩
  requests := fun d hd => ((mem_offersTo hk.offers).1 hd).2.1
  lines := by
    intro d hd
    obtain ⟨-, -, -, hlines⟩ := (mem_offersTo hk.offers).1 hd
    rw [hlines]
    refine ⟨sorted_newestFirst (hk.lines.nodup_keys List.filter_sublist), fun l => ?_⟩
    rw [mem_newestFirst, List.mem_filter, hk.lines.mem_values, beq_iff_eq]

end Rows

namespace Sql

variable {replies : Replies} {rows : Rows} {investor : Int}

/-- The server replies with the offers to the investor, the newest first. -/
theorem reply_offers (hk : rows.Keyed)
    (h : Gives replies rows.database (offersOfInvestorQuery investor)) :
    replies (offersOfInvestorQuery investor) =
      .ok (.rows ((rows.offersTo investor).map (offerRow ·.offer))) := by
  obtain ⟨given, hgiven, hreply⟩ := h
  rw [show (offersOfInvestorQuery investor).params = [.int investor] from rfl,
    rows_offersOfInvestor hk.requests _ rfl] at hgiven
  rw [hgiven.newest (fun d : OfferDetails => (d.offer.createdAt, d.offer.id))
    (fun _ => ⟨rfl, rfl⟩) (Rows.nodup_details hk.offers), List.map_map] at hreply
  exact hreply

/-- Offers are put together with their requests and lines where both are found among all of them. -/
theorem details_eq {requests : List Request} {lines : List Line} :
    ∀ {ds : List OfferDetails} {seen : List Int}, (ds.map (·.offer.id)).Nodup →
      (∀ d ∈ ds, requests.reverse.find? (·.id == d.offer.request) = some d.request ∧
        lines.filter (·.offer == d.offer.id) = d.lines ∧ d.offer.id ∉ seen) →
      details requests lines seen (ds.map (·.offer)) = .ok ds
  | [], _, _, _ => rfl
  | d :: ds, seen, hn, h => by
    obtain ⟨⟨hrequest, hlines, hseen⟩, hds⟩ := List.forall_mem_cons.1 h
    obtain ⟨hnot, hn⟩ := List.nodup_cons.1 hn
    have hrest : details requests lines (d.offer.id :: seen) (ds.map (·.offer)) = .ok ds := by
      refine details_eq hn fun e he => ⟨(hds e he).1, (hds e he).2.1, fun hmem => ?_⟩
      rcases List.mem_cons.1 hmem with hid | hmem
      · exact hnot (List.mem_map.2 ⟨e, he, hid⟩)
      · exact (hds e he).2.2 hmem
    have hfirst : seen.contains d.offer.id = false := by simpa using hseen
    rw [List.map_cons, details, hrequest, hrest, hfirst, hlines]
    rfl

/-- A request of the investor is found under its number. -/
theorem find?_request (hk : rows.requests.Keyed Request.id) {rs : List Request}
    (hrs : rs.Perm (rows.requests.values.filter (·.investor == investor))) {id : Int} {r : Request}
    (hr : rows.requests.get? id = some r) (hinvestor : r.investor = investor) :
    rs.reverse.find? (·.id == id) = some r := by
  have hmem : r ∈ rs.reverse := by
    rw [List.mem_reverse, hrs.mem_iff, List.mem_filter, beq_iff_eq]
    exact ⟨Table.mem_values.2 ⟨id, hr⟩, hinvestor⟩
  cases hfind : rs.reverse.find? (·.id == id) with
  | none =>
    have hne := List.find?_eq_none.1 hfind r hmem
    exact absurd (beq_iff_eq.2 (hk id r hr)) hne
  | some x =>
    have hx := List.mem_reverse.1 (List.mem_of_find?_eq_some hfind)
    have hstored := hk.mem_values.1 (List.mem_filter.1 (hrs.mem_iff.1 hx)).1
    have hid : x.id = id := by simpa using List.find?_some hfind
    rw [hid, hr] at hstored
    exact hstored.symm

/-- From the requests of an investor, in any order, and the lines of the offers, the newest first, the
offers to the investor are put together. -/
theorem details_offersTo (hk : rows.Keyed) {rs : List Request}
    (hrs : rs.Perm (rows.requests.values.filter (·.investor == investor))) :
    details rs (newestFirst (fun l => (l.createdAt, l.id)) (rows.lines.values.filter fun l =>
        (((rows.offersTo investor).map (·.offer)).map Offer.id).contains l.offer)) []
      ((rows.offersTo investor).map (·.offer)) = .ok (rows.offersTo investor) := by
  have hids : ((rows.offersTo investor).map (·.offer.id)).Nodup :=
    (((List.mergeSort_perm _ _).map _).nodup_iff).2 (Rows.nodup_details hk.offers)
  refine details_eq hids fun d hd => ?_
  obtain ⟨-, hrequest, hinvestor, hlines⟩ := (Rows.mem_offersTo hk.offers).1 hd
  have hid : d.offer.id ∈ ((rows.offersTo investor).map (·.offer)).map Offer.id :=
    List.mem_map_of_mem (List.mem_map_of_mem hd)
  refine ⟨find?_request hk.requests hrs hrequest hinvestor, ?_, List.not_mem_nil⟩
  rw [filter_newestFirst (hk.lines.nodup_keys List.filter_sublist), hlines, List.filter_filter]
  refine congrArg (newestFirst _) (List.filter_congr fun l _ => ?_)
  by_cases hl : l.offer = d.offer.id
  · rw [hl, List.contains_iff_mem.2 hid, Bool.and_true]
  · rw [beq_eq_false_iff_ne.2 hl, Bool.false_and]

/-- **Offers put together from three queries are those of a store.**  Where a server answers the
queries for an investor's offers, for the investor's requests and for the lines of offers from the rows
that a transaction sees, the script comes to what the call gives in a store: every offer for a request
of the investor once, the newest first, each with its request and with all of its lines, the newest
first. -/
theorem offers_match {s : Store} {tx : TxId} (hk : (s.view tx).Keyed)
    (hoffers : Gives replies (s.view tx).database (offersOfInvestorQuery investor))
    (hrequests : Gives replies (s.view tx).database (requestsOfInvestorQuery investor))
    (hlines : ∀ ids, Gives replies (s.view tx).database
      (linesQuery (among "offer_id" 1) (.ints ids))) :
    ∃ ds, (s.perform tx (.offersOfInvestor investor)).1 = .ok ds ∧
      outcome replies (script (.offersOfInvestor investor)) = .ok ds ∧
      (s.view tx).Shows investor ds := by
  refine ⟨(s.view tx).offersTo investor, rfl, ?_, Rows.shows_offersTo hk⟩
  generalize s.view tx = rows at *
  have hfirst : outcome replies (allOf readOffer plainly (offersOfInvestorQuery investor)) =
      .ok ((rows.offersTo investor).map (·.offer)) := by
    refine outcome_allOf passes_plainly readOffer_offerRow ?_
    rw [reply_offers hk hoffers, List.map_map]
    rfl
  obtain ⟨rs, hrs, hreply⟩ := reply_requests hrequests
  have hsecond : outcome replies (allOf readRequest plainly (requestsOfInvestorQuery investor)) =
      .ok rs := outcome_allOf passes_plainly readRequest_requestRow hreply
  have hthird := fun ids => outcome_allOf passes_plainly readLine_lineRow
    (reply_lines hk.lines (hlines ids))
  have hdetails := details_offersTo hk hrs
  rw [script, offersOfInvestor, outcome_bind, hfirst]
  change outcome replies (if ((rows.offersTo investor).map (·.offer)).isEmpty then _ else _) = _
  split
  · rename_i hempty
    rw [List.isEmpty_iff, List.map_eq_nil_iff] at hempty
    rw [hempty]
    rfl
  · rw [outcome_bind, hsecond]
    change outcome replies (allOf readLine plainly _ >>= _) = _
    rw [outcome_bind, hthird]
    exact hdetails

namespace Story

open LoanDesk.Story

/-- A second offer, with number 5 and with line 6, is made for request 1 at the same time. -/
def outbid : Store :=
  let offered := (written.perform 1 (.createOffer ⟨1, "rival", .unspecified, none⟩ noon)).2
  ((offered.perform 1 (.createLines 5 1 [tender] noon)).2.commit 1).begin.2

/-- The store with the two offers can be reached. -/
theorem reached_outbid : outbid.Reached := by
  have hoffered := reached_written.call (show written.IsOpen 1 by decide +kernel)
    (.createOffer ⟨1, "rival", .unspecified, none⟩ noon)
  have hlines := hoffered.call
    (show (written.perform 1 (.createOffer ⟨1, "rival", .unspecified, none⟩ noon)).2.IsOpen 1 by
      decide +kernel) (.createLines 5 1 [tender] noon)
  exact (hlines.commit 1).begin

/-- A server that gives its rows in the reverse of the order in which they are stored. -/
def backwards (db : Database) : Replies := fun q =>
  match q.statement with
  | .select s => .ok (.rows ((s.rows q.params db).reverse.map (project s.columns)))
  | .join s => .ok (.rows ((s.rows q.params db).reverse.map (project s.columns)))
  | _ => .ok (.rows [])

/-- The server gives the offers, which differ in their order. -/
theorem gives_offers : Gives (backwards (outbid.view 2).database) (outbid.view 2).database
    (offersOfInvestorQuery 7) :=
  ⟨_, ⟨List.reverse_perm _, by decide +kernel⟩, rfl⟩

/-- The server gives the requests in its order: none is asked for. -/
theorem gives_requests : Gives (backwards (outbid.view 2).database) (outbid.view 2).database
    (requestsOfInvestorQuery 7) := fun _ =>
  ⟨_, ⟨List.reverse_perm _, List.pairwise_of_forall fun _ _ => rfl⟩, rfl⟩

/-- The server gives the lines, which all differ in their order. -/
theorem gives_lines (ids : List Int) : Gives (backwards (outbid.view 2).database)
    (outbid.view 2).database (linesQuery (among "offer_id" 1) (.ints ids)) := by
  refine fun _ => ⟨_, ⟨List.reverse_perm _, ?_⟩, rfl⟩
  have hall : ((outbid.view 2).database lineTable).reverse.Pairwise
      fun a b => inOrder newestOrder a b := by decide +kernel
  exact hall.sublist List.filter_sublist.reverse

/-- All is of one time, so the numbers decide: offer 5 comes before offer 2, and line 4 before
line 3. -/
theorem offers_match_tied : ∃ ds,
    outcome (backwards (outbid.view 2).database) (script (.offersOfInvestor 7)) = .ok ds ∧
      (outbid.view 2).Shows 7 ds ∧
      ds.map (fun d => (d.offer.id, d.lines.map Line.id)) = [(5, [6]), (2, [4, 3])] := by
  obtain ⟨ds, -, hmatch, hshows⟩ := offers_match (reached_outbid.keyed 2) gives_offers
    gives_requests gives_lines
  have hids : (outcome (backwards (outbid.view 2).database) (script (.offersOfInvestor 7))).map
      (fun ds => ds.map fun d => (d.offer.id, d.lines.map Line.id)) =
        .ok [(5, [6]), (2, [4, 3])] := by rfl
  rw [hmatch] at hids
  exact ⟨ds, hmatch, hshows, Except.ok.inj hids⟩

end Story

end Sql
end LoanDesk
