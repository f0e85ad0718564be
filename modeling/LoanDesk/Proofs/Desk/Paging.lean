/-
# Leafing through the requests

A caller who wants to see all requests that a filter selects asks for one page after another until a
page is empty (`Session.Leafed`). Each page is put together anew: what is selected is sorted and cut,
and the lines of all requests on the page are looked up in one go, to be told apart afterwards.

Nothing is lost between the pages. They are stretches of one list, since looking changes nothing
(`Session.rows_listOverviews`). In that list every request has its place (`Rows.sorted_selected`), and
stretch by stretch the pages make up the whole of it (`Session.exists_leafed`). On its page a request
stands where it stands by itself: its lines come in another order, which does not matter to the
standing (`Rows.overviews_items`).
-/

import LoanDesk.Proofs.Desk.Cancellation
import LoanDesk.Proofs.Desk.Merging
import LoanDesk.Proofs.Http.Secrecy
import LoanDesk.Proofs.Store.Claims

namespace LoanDesk

/-! ### The newest first -/

section Newest

variable {α : Type} {key : α → Instant × Int} {as : List α}

/-- What is sorted and has different numbers is sorted strictly. -/
theorem Instant.pairwise_newer (hs : as.Pairwise fun a b => notBefore (key b) (key a))
    (h : (as.map fun a => (key a).2).Nodup) : as.Pairwise fun a b => Newer (key a) (key b) :=
  hs.imp₂ (fun _ _ => newer_of_notBefore) (List.pairwise_map.1 h)

/-- What is ordered comes newest first. -/
theorem notBefore_newestFirst (key : α → Instant × Int) (as : List α) :
    (newestFirst key as).Pairwise fun a b => Instant.notBefore (key b) (key a) := by
  refine @List.pairwise_mergeSort _ (fun a b => Instant.notBefore (key b) (key a))
    (fun _ _ _ hab hbc => Instant.notBefore_trans hbc hab) (fun a b => ?_) as
  rw [Bool.or_eq_true, or_iff_not_imp_left]
  exact Instant.notBefore_of_not

/-- With different numbers it comes strictly newest first. -/
theorem sorted_newestFirst (h : (as.map fun a => (key a).2).Nodup) :
    (newestFirst key as).Pairwise fun a b => Instant.Newer (key a) (key b) :=
  Instant.pairwise_newer (notBefore_newestFirst key as)
    (((List.mergeSort_perm _ _).map _).nodup_iff.2 h)

end Newest

/-! ### Stretches of a list -/

namespace Page

/-- The page with this number, counted from zero, of those that a caller leafs through. -/
def nth (limit : Int) (k : Nat) : Page := clamped limit (k * limit)

/-- A page of a list is the stretch that its number says. -/
theorem slice_nth {α : Type} {n : Nat} (hpos : 1 ≤ n) (hmax : n ≤ 500) (k : Nat) (as : List α) :
    (nth n k).slice as = (as.drop (k * n)).take n := by
  have hnth : nth n k = ⟨n, (k * n : Nat)⟩ := by
    have hoffset : (0 : Int) ≤ (k * n : Nat) := Int.natCast_nonneg _
    rw [nth, clamped, clampLimit, maxLimit, ← Int.natCast_mul]
    congr 1 <;> omega
  rw [hnth, slice]
  simp only [Int.not_lt.2 (Int.natCast_nonneg _), if_false, Int.toNat_natCast]

end Page

/-! ### What is on a page -/

namespace Rows

variable {rows : Rows} {f : RequestFilter}

/-- The requests that a filter selects, the newest first. -/
def selected (rows : Rows) (f : RequestFilter) : List Request :=
  newestFirst (fun r => (r.createdAt, r.id)) (rows.requests.values.filter f.accepts)

/-- A request with where it stands by itself. -/
def overviewOf (rows : Rows) (r : Request) : RequestOverview := .of r (rows.linesOfAll [r.id])

/-- The selected requests are the stored ones that the filter accepts. -/
theorem mem_selected (hk : rows.requests.Keyed Request.id) {r : Request} :
    r ∈ rows.selected f ↔ rows.requests.get? r.id = some r ∧ f.accepts r := by
  rw [selected, mem_newestFirst, List.mem_filter, hk.mem_values]

/-- Every request has its place: of one time, the one of greater number comes first. -/
theorem sorted_selected (hk : rows.requests.Keyed Request.id) : (rows.selected f).Pairwise
    fun a b => Instant.Newer (a.createdAt, a.id) (b.createdAt, b.id) :=
  sorted_newestFirst (hk.nodup_keys List.filter_sublist)

/-- The lines of a request are told apart from those of others that were looked up with them. -/
theorem filter_linesOfAll {ids : List Int} {id : Int} (hid : id ∈ ids) :
    (rows.linesOfAll [id]).Perm ((rows.linesOfAll ids).filter (·.request == id)) := by
  have hvalues : (rows.lines.values.filter fun l => ids.contains l.request).filter
      (·.request == id) = rows.linesOf id := by
    rw [List.filter_filter]
    refine List.filter_congr fun l _ => ?_
    by_cases hl : l.request = id <;> simp [hl, hid]
  have hlisted : ((rows.linesOfAll ids).filter (·.request == id)).Perm (rows.linesOf id) :=
    hvalues ▸ (List.mergeSort_perm _ _).filter _
  rw [linesOfAll, filter_request]
  exact (List.mergeSort_perm _ _).trans hlisted.symm

/-- On its page a request stands where it stands by itself. -/
theorem overviews_items (hk : rows.lines.Keyed Line.id) (page : Page) :
    (rows.overviews f page).items = (page.slice (rows.selected f)).map rows.overviewOf := by
  refine List.map_congr_left fun r hr => ?_
  have hid : r.id ∈ (rows.paged f page).map Request.id := List.mem_map_of_mem hr
  have hperm := rows.filter_linesOfAll hid
  rw [overviewOf, RequestOverview.of, RequestOverview.of, hperm.length_eq,
    Standing.of_perm (nodup_linesOfAll hk) hperm]

/-- The total counts all selected requests, whatever the page. -/
theorem overviews_total (page : Page) :
    (rows.overviews f page).total = (rows.selected f).length := by
  rw [selected, newestFirst, List.length_mergeSort]
  rfl

/-- A selected request has an overview. -/
theorem overview?_of_mem (hk : rows.requests.Keyed Request.id) {r : Request}
    (hr : r ∈ rows.selected f) : rows.overview? r.id = some (rows.overviewOf r) := by
  rw [overview?, ((mem_selected hk).1 hr).1]
  rfl

end Rows

/-! ### Page after page -/

namespace Session

/-- A caller leafs through the requests that a filter selects, from the page with this number on,
until a page is empty, and gets these pages. -/
inductive Leafed (f : RequestFilter) (limit : Int) : Session → Nat → List OverviewPage → Prop
  | last {s t : Session} {k : Nat} {page : OverviewPage}
    (hpage : Session.run (Desk.listOverviews f (.nth limit k)).run s = (.ok page, t))
    (hempty : page.items = []) : Leafed f limit s k [page]
  | more {s t : Session} {k : Nat} {page : OverviewPage} {pages : List OverviewPage}
    (hpage : Session.run (Desk.listOverviews f (.nth limit k)).run s = (.ok page, t))
    (hsome : page.items ≠ []) (hrest : Leafed f limit t (k + 1) pages) :
    Leafed f limit s k (page :: pages)

variable {f : RequestFilter} {limit : Int} {s : Session} {k : Nat}

/-- What is got depends on the session only. -/
theorem Leafed.unique {pages pages' : List OverviewPage} (h : s.Leafed f limit k pages)
    (h' : s.Leafed f limit k pages') : pages = pages' := by
  induction h generalizing pages' with
  | last hpage hempty =>
    cases h' with
    | last hpage' _ =>
      cases hpage.symm.trans hpage'
      rfl
    | more hpage' hsome _ =>
      cases hpage.symm.trans hpage'
      exact absurd hempty hsome
  | more hpage hsome _ ih =>
    cases h' with
    | last hpage' hempty =>
      cases hpage.symm.trans hpage'
      exact absurd hempty hsome
    | more hpage' _ hrest =>
      cases hpage.symm.trans hpage'
      rw [ih hrest]

/-- Without faults a page is read, and looking changes nothing. -/
theorem rows_listOverviews (hf : s.faults = []) (page : Page) :
    ∃ t, Session.run (Desk.listOverviews f page).run s = (.ok (s.store.rows.overviews f page), t) ∧
      t.store.rows = s.store.rows ∧ t.faults = [] := by
  obtain ⟨store, mailbox, faults⟩ := s
  obtain rfl : faults = [] := hf
  have hpage := run_listOverviews store mailbox f page
  have hruns := Program.runs_run (Desk.listOverviews f page).run ⟨store, mailbox, []⟩
  have hfaults := faults_run (Desk.listOverviews f page).run ⟨store, mailbox, []⟩ rfl
  generalize Session.run (Desk.listOverviews f page).run ⟨store, mailbox, []⟩ = x at *
  obtain ⟨a, t⟩ := x
  exact ⟨t, Prod.ext hpage rfl, (Program.Quiet.runs hruns (Desk.quiet_listOverviews f page)).1,
    hfaults⟩

/-- A selected request is shown when it is asked for. -/
theorem run_overview_of_mem (hk : s.store.rows.requests.Keyed Request.id) (hf : s.faults = [])
    {r : Request} (hr : r ∈ s.store.rows.selected f) :
    (Session.run (Desk.overview r.id).run s).1 = .ok (s.store.rows.overviewOf r) := by
  obtain ⟨store, mailbox, faults⟩ := s
  obtain rfl : faults = [] := hf
  rw [run_overview?, Rows.overview?_of_mem hk hr]
  rfl

/-- From any page on, the pages make up what is left of the list. By induction on how much that is:
each page takes its stretch, and as long as there is one the rest is shorter. -/
theorem exists_leafed (f : RequestFilter) {n : Nat} (hpos : 1 ≤ n) (hmax : n ≤ 500) {rows : Rows}
    (hk : rows.lines.Keyed Line.id) {s : Session} (hs : s.store.rows = rows) (hf : s.faults = [])
    (k : Nat) : ∃ pages, s.Leafed f n k pages ∧
      pages.flatMap (·.items) = ((rows.selected f).drop (k * n)).map rows.overviewOf ∧
      ∀ page ∈ pages, page.total = (rows.selected f).length := by
  induction hleft : (rows.selected f).length - k * n using Nat.strong_induction_on
    generalizing s k with
  | _ left ih =>
    obtain ⟨t, hrun, ht, hft⟩ := rows_listOverviews (f := f) hf (.nth n k)
    rw [hs] at hrun ht
    have hitems := rows.overviews_items (f := f) hk (.nth n k)
    rw [Page.slice_nth hpos hmax] at hitems
    by_cases hend : (rows.selected f).length ≤ k * n
    · have hdrop : (rows.selected f).drop (k * n) = [] := List.drop_eq_nil_of_le hend
      rw [hdrop, List.take_nil, List.map_nil] at hitems
      refine ⟨_, .last hrun hitems, ?_, List.forall_mem_singleton.2 (Rows.overviews_total _)⟩
      rw [List.flatMap_cons, hitems, hdrop]
      rfl
    · have hshorter : (rows.selected f).length - (k + 1) * n < left := by
        rw [Nat.succ_mul]
        omega
      obtain ⟨pages, hpages, hall, htotal⟩ := ih _ hshorter ht hft (k + 1) rfl
      have hsome : (rows.overviews f (.nth n k)).items ≠ [] := by
        rw [hitems]
        refine List.ne_nil_of_length_pos ?_
        rw [List.length_map, List.length_take, List.length_drop]
        omega
      refine ⟨_, .more hrun hsome hpages, ?_,
        List.forall_mem_cons.2 ⟨Rows.overviews_total _, htotal⟩⟩
      rw [List.flatMap_cons, hall, hitems, ← List.map_append, Nat.succ_mul, ← List.drop_drop,
        List.take_append_drop]

end Session

/-- **Leafing through the requests shows them all.** Whatever has come about in the store and
whoever is at work in it, a caller who asks for one page after another, with a limit between 1 and
500, comes to an empty page. The requests on the pages are those that the filter selects, each of
them once, the newest first and of one time the one of greater number. Every page tells how many they
are, and shows a request as an overview of it does. -/
theorem Store.Reached.pages_complete {s : Session} (h : s.store.Reached) (hf : s.faults = [])
    (f : RequestFilter) {limit : Int} (hlimit : 1 ≤ limit ∧ limit ≤ Page.maxLimit) :
    ∃ pages, (∀ pages', s.Leafed f limit 0 pages' ↔ pages' = pages) ∧
      let items := pages.flatMap (·.items)
      (items.map (·.request)).Pairwise
        (fun a b => Instant.Newer (a.createdAt, a.id) (b.createdAt, b.id)) ∧
      (∀ r, r ∈ items.map (·.request) ↔
        s.store.rows.requests.get? r.id = some r ∧ f.accepts r) ∧
      (∀ page ∈ pages, page.total = items.length) ∧
      ∀ o ∈ items, ∀ t : Session, t.store.rows = s.store.rows → t.faults = [] →
        (Session.run (Desk.overview o.request.id).run t).1 = .ok o := by
  obtain ⟨n, rfl⟩ := Int.eq_ofNat_of_zero_le (Int.le_trans (by decide) hlimit.1)
  have hk := h.numbered.keyed_requests
  obtain ⟨pages, hpages, hitems, htotal⟩ := Session.exists_leafed f (Int.ofNat_le.1 hlimit.1)
    (Int.ofNat_le.1 hlimit.2) h.numbered.keyed_lines rfl hf 0
  rw [Nat.zero_mul, List.drop_zero] at hitems
  have hrequests : (pages.flatMap (·.items)).map (·.request) = s.store.rows.selected f := by
    rw [hitems, List.map_map]
    exact List.map_id _
  refine ⟨pages, fun pages' => ⟨fun h' => h'.unique hpages, fun h' => h' ▸ hpages⟩, ?_, ?_, ?_, ?_⟩
  · rw [hrequests]
    exact Rows.sorted_selected hk
  · rw [hrequests]
    exact fun r => Rows.mem_selected hk
  · rw [hitems, List.length_map]
    exact htotal
  · rw [hitems]
    intro o ho t ht hft
    obtain ⟨r, hr, rfl⟩ := List.mem_map.1 ho
    rw [← ht] at hk hr ⊢
    exact Session.run_overview_of_mem hk hft hr

namespace Story

/-- A clerk in front of a store with requests 1 and 2, which were opened at one time. -/
def leafing : Session := ⟨wished, ⟨true, none, []⟩, []⟩

/-- The store with the two requests can be reached. -/
theorem reached_wished : wished.Reached := by
  have hfirst : Store.empty.begin.2.IsOpen 1 := by decide +kernel
  have hsecond : (Store.empty.begin.2.perform 1 (.createRequest wish noon)).2.IsOpen 1 := by
    decide +kernel
  have hasked := Store.Reached.empty.begin.call hfirst (.createRequest wish noon)
  exact ((hasked.call hsecond (.createRequest wish noon)).commit 1).begin.begin

/-- Request 2 comes before request 1, though they are of one time. -/
theorem pages_complete_tied : ∃ pages, leafing.Leafed {} 1 0 pages ∧ ∃ before after,
    (pages.flatMap (·.items)).map (·.request.id) = before ++ 1 :: after ∧ 2 ∈ before := by
  have hlimit : (1 : Int) ≤ 1 ∧ 1 ≤ Page.maxLimit := by decide
  obtain ⟨pages, hpages, hsorted, hmem, -, -⟩ :=
    Store.Reached.pages_complete (s := leafing) reached_wished rfl {} hlimit
  have hstored (id : Int) (h : (wished.rows.requests.get? id).map (fun r => (r.createdAt, r.id)) =
      some (noon, id)) : ∃ r ∈ (pages.flatMap (·.items)).map (·.request),
        (r.createdAt, r.id) = (noon, id) := by
    obtain ⟨r, hr, hkey⟩ := Option.map_eq_some_iff.1 h
    have hid : r.id = id := congrArg Prod.snd hkey
    exact ⟨r, (hmem r).2 ⟨by rw [hid]; exact hr, rfl⟩, hkey⟩
  obtain ⟨a, ha, hakey⟩ := hstored 1 (by decide +kernel)
  obtain ⟨b, hb, hbkey⟩ := hstored 2 (by decide +kernel)
  have haid : a.id = 1 := congrArg Prod.snd hakey
  have hbid : b.id = 2 := congrArg Prod.snd hbkey
  obtain ⟨before, after, hsplit⟩ := List.append_of_mem ha
  rw [hsplit] at hsorted hb
  have hbefore : b ∈ before := by
    refine (List.mem_append.1 hb).resolve_right fun hb => ?_
    rcases List.mem_cons.1 hb with rfl | hb
    · omega
    · have hnewer := (List.pairwise_cons.1 (List.pairwise_append.1 hsorted).2.1).1 b hb
      rw [hakey, hbkey] at hnewer
      rcases hnewer with htime | ⟨-, hid⟩
      · exact lt_irrefl _ htime
      · exact absurd hid (by decide)
  refine ⟨pages, (hpages pages).2 rfl, before.map (·.id), after.map (·.id), ?_,
    hbid ▸ List.mem_map_of_mem hbefore⟩
  have hids := congrArg (List.map Request.id) hsplit
  rwa [List.map_map, List.map_append, List.map_cons, haid] at hids

end Story
end LoanDesk
