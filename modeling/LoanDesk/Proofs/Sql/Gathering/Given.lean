/-
# What queries give

A selection gives the rows of a table that satisfy its conditions, and a join gives those that have a
partner in another table (`Gives`). They come in the order that is asked for (`Arranged`), and where
none is asked for in any. Where the rows stand under numbers of their own, the order of time and
number leaves the server no choice (`eq_newestFirst`).
-/

import LoanDesk.Proofs.Desk.Paging
import LoanDesk.Proofs.Sql.Reading
import LoanDesk.Proofs.Store.Register

namespace LoanDesk

/-! ### The newest first -/

section Newest

variable {α : Type} {key : α → Instant × Int} {as bs : List α}

/-- There is one way to put the newest first. -/
theorem eq_newestFirst (hperm : bs.Perm as) (hn : (as.map fun a => (key a).2).Nodup)
    (hs : bs.Pairwise fun a b => Instant.notBefore (key b) (key a)) : bs = newestFirst key as := by
  have hnewer := Instant.pairwise_newer hs ((hperm.map _).nodup_iff.2 hn)
  refine List.Perm.eq_of_pairwise (fun a b _ _ hab hba => ?_) hnewer (sorted_newestFirst hn)
    (hperm.trans (List.mergeSort_perm _ _).symm)
  exact (hab.asymm hba).elim

/-- What is selected from sorted rows is sorted. -/
theorem filter_newestFirst (hn : (as.map fun a => (key a).2).Nodup) (p : α → Bool) :
    (newestFirst key as).filter p = newestFirst key (as.filter p) := by
  refine eq_newestFirst ((List.mergeSort_perm _ _).filter p)
    (hn.sublist (List.filter_sublist.map _)) ((notBefore_newestFirst key as).filter p)

end Newest

namespace Sql

/-! ### Selections and joins -/

namespace Order

/-- By its column the first row comes before the second. -/
def before : Order → Row → Row → Bool
  | ascending column, a, b => Relation.lt.holds (cell a column) (cell b column)
  | descending column, a, b => Relation.lt.holds (cell b column) (cell a column)

/-- Its column does not tell the rows apart. -/
def level : Order → Row → Row → Bool
  | ascending column, a, b | descending column, a, b => (cell a column).same (cell b column)

end Order

/-- The first row may come before the second: where one column does not tell them apart the next
does. -/
def inOrder : List Order → Row → Row → Bool
  | [], _, _ => true
  | o :: os, a, b => o.before a b || (o.level a b && inOrder os a b)

/-- The rows are given in an order that is asked for. -/
def Arranged (order : List Order) (rows given : List Row) : Prop :=
  given.Perm rows ∧ given.Pairwise fun a b => inOrder order a b

/-- All rows are asked for, and none of them is locked. -/
def Selection.Plain (s : Selection) : Prop := s.limit = none ∧ s.offset = none ∧ s.lock = none

/-- The rows of the table that satisfy all conditions. -/
def Selection.rows (s : Selection) (params : List Value) (db : Database) : List Row :=
  (db s.table).filter fun row => s.conditions.all (·.holds params row)

/-- The rows of the table, each once for every partner that satisfies all conditions. -/
def Joined.rows (s : Joined) (params : List Value) (db : Database) : List Row :=
  (db s.table).flatMap fun row =>
    ((db s.other).filter fun partner => (cell row s.key).same (cell partner s.otherKey) &&
      s.conditions.all (·.holds params partner)).map fun _ => row

/-- The server answers a plain selection, or a join, from the database: with the columns that are
asked for of the rows that are selected, in an order that is asked for. -/
def Gives (replies : Replies) (db : Database) (q : Query) : Prop :=
  match q.statement with
  | .select s => s.Plain → ∃ given, Arranged s.order (s.rows q.params db) given ∧
      replies q = .ok (.rows (given.map (project s.columns)))
  | .join s => ∃ given, Arranged s.order (s.rows q.params db) given ∧
      replies q = .ok (.rows (given.map (project s.columns)))
  | _ => True

section Arranged

variable {α : Type} {row : α → Row} {key : α → Instant × Int} {as : List α} {given : List Row}

/-- Times are compared as such. -/
theorem lt_time {x y : Instant} (h : Relation.lt.holds (.time x) (.time y)) : x < y := by
  have h' : (decide (x ≤ y) && !(x == y)) = true := h
  rw [Bool.and_eq_true, decide_eq_true_iff, Bool.not_eq_true', beq_eq_false_iff_ne] at h'
  exact (lt_or_eq_of_le h'.1).resolve_right h'.2

/-- Numbers are compared as such. -/
theorem lt_int {x y : Int} (h : Relation.lt.holds (.int x) (.int y)) : x < y := by
  have h' : (decide (x ≤ y) && !(x == y)) = true := h
  rw [Bool.and_eq_true, decide_eq_true_iff, Bool.not_eq_true', beq_eq_false_iff_ne] at h'
  omega

/-- Rows with a time and a number are ordered by these. -/
theorem notBefore_of_inOrder
    (hrow : ∀ a, cell (row a) "created_at" = .time (key a).1 ∧ cell (row a) "id" = .int (key a).2)
    {a b : α} (h : inOrder newestOrder (row a) (row b)) : Instant.notBefore (key b) (key a) := by
  obtain ⟨htime, hid⟩ := hrow a
  obtain ⟨htime', hid'⟩ := hrow b
  have h' : (Relation.lt.holds (cell (row b) "created_at") (cell (row a) "created_at") ||
      ((cell (row a) "created_at").same (cell (row b) "created_at") &&
        (Relation.lt.holds (cell (row b) "id") (cell (row a) "id") ||
          ((cell (row a) "id").same (cell (row b) "id") && true)))) = true := h
  rw [htime, htime', hid, hid', Bool.and_true, Bool.or_eq_true, Bool.and_eq_true,
    Bool.or_eq_true] at h'
  rw [Instant.notBefore_iff]
  rcases h' with hlt | ⟨he, hlt | heq⟩
  · exact Or.inl (lt_time hlt)
  · exact Or.inr ⟨(beq_iff_eq.1 he).symm, Int.le_of_lt (lt_int hlt)⟩
  · exact Or.inr ⟨(beq_iff_eq.1 he).symm, Int.le_of_eq (beq_iff_eq.1 heq).symm⟩

/-- Where time and number tell all rows apart they come as they are sorted. -/
theorem Arranged.newest (h : Arranged newestOrder (as.map row) given) (key : α → Instant × Int)
    (hrow : ∀ a, cell (row a) "created_at" = .time (key a).1 ∧ cell (row a) "id" = .int (key a).2)
    (hn : (as.map fun a => (key a).2).Nodup) : given = (newestFirst key as).map row := by
  obtain ⟨hperm, hsorted⟩ := h
  obtain ⟨bs, hbs, rfl⟩ := exists_map_of_perm hperm
  have hs : bs.Pairwise fun a b => Instant.notBefore (key b) (key a) :=
    (List.pairwise_map.1 hsorted).imp (notBefore_of_inOrder hrow)
  rw [eq_newestFirst hbs hn hs]

end Arranged

/-! ### The three queries -/

variable {replies : Replies} {rows : Rows} {investor : Int}

/-- A plain selection gives the rows of what its conditions select in a store. -/
theorem Gives.selection {s : Selection} {params : List Value}
    (h : Gives replies rows.database ⟨.select s, params⟩) (n : TableName) {p : n.Row → Bool}
    (hplain : s.Plain) (htable : s.table = n.title)
    (hp : ∀ a, s.conditions.all (·.holds params (n.row a)) = p a) :
    ∃ given, Arranged s.order (((rows.get n).values.filter p).map n.row) given ∧
      replies ⟨.select s, params⟩ = .ok (.rows (given.map (project s.columns))) := by
  obtain ⟨given, hgiven, hreply⟩ := h hplain
  refine ⟨given, ?_, hreply⟩
  have hrows : s.rows params rows.database = ((rows.get n).values.filter p).map n.row := by
    rw [Selection.rows, htable, Rows.database_title]
    exact filter_map_of (f := n.row) hp _
  exact hrows ▸ hgiven

/-- The server replies with the requests of the investor, in some order. -/
theorem reply_requests (h : Gives replies rows.database (requestsOfInvestorQuery investor)) :
    ∃ rs : List Request, rs.Perm (rows.requests.values.filter (·.investor == investor)) ∧
      replies (requestsOfInvestorQuery investor) = .ok (.rows (rs.map requestRow)) := by
  obtain ⟨given, ⟨hperm, -⟩, hreply⟩ := h.selection .requests (p := (·.investor == investor))
    ⟨rfl, rfl, rfl⟩ rfl fun _ => Bool.and_true _
  obtain ⟨rs, hrs, rfl⟩ := exists_map_of_perm hperm
  refine ⟨rs, hrs, hreply.trans ?_⟩
  rw [List.map_map]
  rfl

/-- The server replies with the lines of the offers, the newest first. -/
theorem reply_lines {ids : List Int} (hk : rows.lines.Keyed Line.id)
    (h : Gives replies rows.database (linesQuery (among "offer_id" 1) (.ints ids))) :
    replies (linesQuery (among "offer_id" 1) (.ints ids)) =
      .ok (.rows ((newestFirst (fun l => (l.createdAt, l.id))
        (rows.lines.values.filter fun l => ids.contains l.offer)).map lineRow)) := by
  obtain ⟨given, hgiven, hreply⟩ := h.selection .lines (p := fun l => ids.contains l.offer)
    ⟨rfl, rfl, rfl⟩ rfl fun _ => Bool.and_true _
  rw [hgiven.newest (fun l : Line => (l.createdAt, l.id)) (fun _ => ⟨rfl, rfl⟩)
    (hk.nodup_keys List.filter_sublist), List.map_map] at hreply
  exact hreply

/-- The partner of an offer of an investor is its request, so that it comes once. -/
theorem rows_offersOfInvestor (hk : rows.requests.Keyed Request.id) (s : Joined)
    (hs : (offersOfInvestorQuery investor).statement = .join s) :
    s.rows [.int investor] rows.database =
      (rows.offers.values.filterMap (Store.details? rows investor)).map (offerRow ·.offer) := by
  obtain ⟨rfl⟩ := hs
  have hoffers : rows.database offerTable = rows.offers.values.map offerRow :=
    rows.database_title .offers
  have hrequests : rows.database requestTable = rows.requests.values.map requestRow :=
    rows.database_title .requests
  rw [Joined.rows, hoffers, hrequests, List.flatMap_map, List.filterMap_eq_flatMap_toList,
    List.map_flatMap]
  congr 1
  funext o
  have hpartner : (rows.requests.values.filter fun r => o.request == r.id &&
      (r.investor == investor && true)) =
        ((rows.requests.get? o.request).filter (·.investor == investor)).toList := by
    simp only [Bool.and_true]
    exact hk.filter_key o.request (·.investor == investor)
  rw [List.filter_map, List.map_map]
  refine (congrArg (List.map fun _ => offerRow o) hpartner).trans ?_
  rw [Store.details?]
  cases (rows.requests.get? o.request).filter (·.investor == investor) <;> rfl

end Sql

end LoanDesk
