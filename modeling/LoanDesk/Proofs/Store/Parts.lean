/-
# Parts of what is stored

A condition on the numbers of requests cuts the rows in two parts: the requests that satisfy it with
their offers, lines and sheets, and the others with theirs. Tables of other rows are whole in both
parts. Rows are known by their two parts (`Rows.eq_of_parts`).

A call is *local* to a part if it makes of the part what it makes of the whole, and leaves the other
part as it is (`Call.Local`). A call is local to the part that has the rows it asks for, be it by
request, by offer or by line.
-/

import LoanDesk.Proofs.Store.Answers

namespace LoanDesk

/-! ### Tables -/

namespace Table

variable {α : Type} {t u : Table α} {q : α → Bool}

/-- A row stands in a part of the table or in the rest. -/
theorem get?_eq_some_iff_filters {k : Int} {a : α} : t.get? k = some a ↔
    (t.filter q).get? k = some a ∨ (t.filter fun a => !q a).get? k = some a := by
  rw [get?_filter_eq_some, get?_filter_eq_some]
  cases q a <;> simp

/-- A table is known by the rows that satisfy a condition and those that do not. -/
theorem eq_of_filters (h : t.filter q = u.filter q)
    (h' : (t.filter fun a => !q a) = u.filter fun a => !q a) : t = u := by
  refine ext fun k => Option.ext fun a => ?_
  rw [get?_eq_some_iff_filters, h, h', ← get?_eq_some_iff_filters]

/-- Under a number whose row is in the part the same is found there as in the table. -/
theorem get?_filter_of {k : Int} (h : ∀ a, t.get? k = some a → q a) :
    (t.filter q).get? k = t.get? k := by
  refine Option.ext fun a => ?_
  rw [get?_filter_eq_some]
  exact ⟨And.left, fun ha => ⟨ha, h a ha⟩⟩

variable {f : α → α}

/-- A change that does not show may be made before or after rows are looked for. -/
theorem filter_map (hf : ∀ a, q (f a) = q a) : (t.map f).filter q = (t.filter q).map f := by
  refine ext fun k => Option.ext fun b => ?_
  rw [get?_filter_eq_some, get?_map_eq_some, get?_map_eq_some]
  constructor
  · rintro ⟨⟨a, ha, rfl⟩, hq⟩
    exact ⟨a, get?_filter_eq_some.2 ⟨ha, (hf a).symm.trans hq⟩, rfl⟩
  · rintro ⟨a, ha, rfl⟩
    obtain ⟨ha, hq⟩ := get?_filter_eq_some.1 ha
    exact ⟨⟨a, ha, rfl⟩, (hf a).trans hq⟩

/-- Rows that are looked for are as before if only others are changed. -/
theorem filter_map_of_eq (hf : ∀ a, q (f a) = q a) (h : ∀ a ∈ t.values, q a → f a = a) :
    (t.map f).filter q = t.filter q := by
  rw [filter_map hf]
  refine ext fun k => ?_
  rw [get?_map]
  cases ha : (t.filter q).get? k with
  | none => rfl
  | some a =>
    obtain ⟨ha, hq⟩ := get?_filter_eq_some.1 ha
    exact congrArg some (h a (mem_values.2 ⟨k, ha⟩) hq)

/-- Two conditions may be put in either order. -/
theorem filter_comm {q' : α → Bool} : (t.filter q').filter q = (t.filter q).filter q' := by
  refine ext fun k => Option.ext fun a => ?_
  simp only [get?_filter_eq_some, and_assoc, and_comm (a := q' a = true)]

/-- Rows that are looked for are as before if only others are removed. -/
theorem filter_filter_of {q' : α → Bool} (h : ∀ a, q a → q' a) :
    (t.filter q').filter q = t.filter q := by
  rw [filter_comm]
  exact ext fun k => get?_filter_of fun a ha => h a (get?_filter_eq_some.1 ha).2

end Table

/-! ### Rows -/

namespace Rows

/-- The requests that satisfy a condition, with all that belongs to them. -/
def part (rows : Rows) (p : Int → Bool) : Rows :=
  { rows with
    requests := rows.requests.filter fun r => p r.id
    offers := rows.offers.filter fun o => p o.request
    lines := rows.lines.filter fun l => p l.request
    sheets := rows.sheets.filter fun s => p s.request }

/-- All that does not belong to the part. -/
abbrev rest (rows : Rows) (p : Int → Bool) : Rows := rows.part fun id => !p id

variable {rows rows' : Rows} {p : Int → Bool}

/-- **Rows are known by two parts.** -/
theorem eq_of_parts (h : rows.part p = rows'.part p) (h' : rows.rest p = rows'.rest p) :
    rows = rows' := by
  obtain ⟨requests, offers, lines, contracts, sheets, ceilings, jobs⟩ := rows
  obtain ⟨requests', offers', lines', contracts', sheets', ceilings', jobs'⟩ := rows'
  injection h with hr ho hl hk hs hc hj
  injection h' with hr' ho' hl' _ hs'
  obtain rfl := Table.eq_of_filters hr hr'
  obtain rfl := Table.eq_of_filters ho ho'
  obtain rfl := Table.eq_of_filters hl hl'
  obtain rfl := Table.eq_of_filters hs hs'
  subst hk hc hj
  rfl

/-- A part of rows that stand under their own numbers stands under them. -/
theorem Keyed.part (h : rows.Keyed) (p : Int → Bool) : (rows.part p).Keyed :=
  { h with
    requests := h.requests.filter _
    offers := h.offers.filter _
    lines := h.lines.filter _
    sheets := h.sheets.filter _ }

/-- A request of the part is found in it as in the rows. -/
theorem get?_part_requests (hk : rows.Keyed) {id : Int} (hp : p id) :
    (rows.part p).requests.get? id = rows.requests.get? id :=
  Table.get?_filter_of fun r hr => by rw [hk.requests _ r hr]; exact hp

/-- Requests may change as long as they keep their numbers. -/
theorem part_mapRequests {f : Request → Request} (hf : ∀ r, (f r).id = r.id) :
    part { rows with requests := rows.requests.map f } p =
      { rows.part p with requests := (rows.part p).requests.map f } := by
  have hrequests := Table.filter_map (t := rows.requests) (q := fun r => p r.id) (f := f)
    fun r => by rw [hf]
  simp only [part, hrequests]

/-- Lines may change as long as they stay with their requests. -/
theorem part_mapLines {f : Line → Line} (hf : ∀ l, (f l).request = l.request) :
    part { rows with lines := rows.lines.map f } p =
      { rows.part p with lines := (rows.part p).lines.map f } := by
  have hlines := Table.filter_map (t := rows.lines) (q := fun l => p l.request) (f := f)
    fun l => by rw [hf]
  simp only [part, hlines]

/-- Changing requests of the part leaves the rest as it was. -/
theorem rest_mapRequests {f : Request → Request} (hf : ∀ r, (f r).id = r.id)
    (h : ∀ r, ¬p r.id → f r = r) :
    rest { rows with requests := rows.requests.map f } p = rows.rest p := by
  have hrequests : (rows.requests.map f).filter (fun r => !p r.id) =
      rows.requests.filter fun r => !p r.id :=
    Table.filter_map_of_eq (fun r => by rw [hf]) fun r _ hr => h r (by simpa using hr)
  simp only [rest, part, hrequests]

/-- Changing lines of the part leaves the rest as it was. -/
theorem rest_mapLines {f : Line → Line} (hf : ∀ l, (f l).request = l.request)
    (h : ∀ l ∈ rows.lines.values, ¬p l.request → f l = l) :
    rest { rows with lines := rows.lines.map f } p = rows.rest p := by
  have hlines : (rows.lines.map f).filter (fun l => !p l.request) =
      rows.lines.filter fun l => !p l.request :=
    Table.filter_map_of_eq (fun l => by rw [hf]) fun l hl hp => h l hl (by simpa using hp)
  simp only [rest, part, hlines]

/-- A deletion takes from the part what it takes from the rows. -/
theorem part_removeRequest (id : Int) :
    (rows.removeRequest id).part p = (rows.part p).removeRequest id := by
  simp only [removeRequest, part, Table.filter_comm]

/-- A request of the part goes, and nothing of the rest. -/
theorem rest_removeRequest {id : Int} (hp : p id) : (rows.removeRequest id).rest p = rows.rest p := by
  have hne : ∀ i : Int, (!p i) = true → (i != id) = true := by
    intro i hi
    rw [bne_iff_ne]
    rintro rfl
    rw [hp] at hi
    cases hi
  have hr : (rows.requests.filter (·.id != id)).filter (fun r => !p r.id) =
      rows.requests.filter fun r => !p r.id := Table.filter_filter_of fun r => hne r.id
  have ho : (rows.offers.filter (·.request != id)).filter (fun o => !p o.request) =
      rows.offers.filter fun o => !p o.request := Table.filter_filter_of fun o => hne o.request
  have hl : (rows.lines.filter (·.request != id)).filter (fun l => !p l.request) =
      rows.lines.filter fun l => !p l.request := Table.filter_filter_of fun l => hne l.request
  have hs : (rows.sheets.filter (·.request != id)).filter (fun s => !p s.request) =
      rows.sheets.filter fun s => !p s.request := Table.filter_filter_of fun s => hne s.request
  simp only [rest, removeRequest, part, hr, ho, hl, hs]

end Rows

/-! ### Outcomes -/

namespace Book

/-- Of two outcomes on books, one on the rows and one on a part of them, the second is the part of
the first, and the first has left the rest as it was. -/
inductive Splits {ε α : Type} (p : Int → Bool) (rows : Rows) :
    Except ε (α × Book) → Except ε (α × Book) → Prop
  | ok {a : α} {b b' : Book} (part : b.rows.part p = b'.rows) (rest : b.rows.rest p = rows.rest p) :
    Splits p rows (.ok (a, b)) (.ok (a, b'))
  | error (e : ε) : Splits p rows (.error e) (.error e)

/-- The rest may have been left as it was in two steps. -/
theorem Splits.trans {ε α : Type} {p : Int → Bool} {rows rows' : Rows}
    {x x' : Except ε (α × Book)} (h : Splits p rows' x x') (hrest : rows'.rest p = rows.rest p) :
    Splits p rows x x' := by
  cases h with
  | ok hpart hrest' => exact .ok hpart (hrest'.trans hrest)
  | error e => exact .error e

end Book

/-- The call makes of the part what it makes of the rows, and leaves the rest as it is. -/
def Call.Local (c : Call) (p : Int → Bool) (rows : Rows) : Prop :=
  ∀ n n', Book.Splits p rows (Book.perform (fun _ => true) ⟨rows, n⟩ c)
    (Book.perform (fun _ => true) ⟨rows.part p, n'⟩ c)

namespace Book

/-- Where all rows are free every demand is met. -/
@[simp] theorem demand_true (keys : List RowKey) (e : StoreError) :
    demand (fun _ => true) keys e = .ok () :=
  demand_eq_ok.2 fun _ _ => rfl

/-- Where all rows are free every one that is demanded is. -/
@[simp] theorem demandEach_true (key : Int → RowKey) (entity : String) (ids : List Int) :
    demandEach (fun _ => true) key entity ids = .ok () :=
  demandEach_eq_ok.2 fun _ _ => rfl

end Book

namespace Call

variable {rows : Rows} {p : Int → Bool}

open Rows
open Book (Splits)

/-! ### Reading -/

/-- Reading an offer of the part with its request is local to the part. -/
theorem local_offerWithRequest (hk : rows.Keyed) {id : Int}
    (hp : ∀ o, rows.offers.get? id = some o → p o.request) : (offerWithRequest id).Local p rows := by
  intro n n'
  have hoffer : (rows.part p).offers.get? id = rows.offers.get? id := Table.get?_filter_of hp
  simp only [Book.perform, hoffer]
  cases ho : rows.offers.get? id with
  | none => exact .error _
  | some o =>
    dsimp only [Book.found, bind, Except.bind, Book.request]
    rw [get?_part_requests hk (hp o ho)]
    cases rows.requests.get? o.request with
    | none => exact .error _
    | some r => exact .ok rfl rfl

/-- Locking a request of the part is local to the part. -/
theorem local_lockRequest (hk : rows.Keyed) {id : Int} (hp : p id) (mode : LockMode) :
    (lockRequest id mode).Local p rows := by
  intro n n'
  simp only [Book.perform, Book.request, get?_part_requests hk hp, Book.demand_true]
  cases rows.requests.get? id with
  | none => exact .error _
  | some r => exact .ok rfl rfl

/-- Reading the offers for a request of the part is local to the part. -/
theorem local_offersOfRequest {id : Int} (hp : p id) : (offersOfRequest id).Local p rows := by
  intro n n'
  have hoffers : (rows.part p).offers.values.filter (·.request == id) =
      rows.offers.values.filter (·.request == id) :=
    Table.filter_values_filter fun o _ ho => by rw [beq_iff_eq.1 ho]; exact hp
  simp only [Book.perform, hoffers]
  exact .ok rfl rfl

/-- Lines are found in the part if they belong to it. -/
theorem filter_part_lines {q : Line → Bool} (hq : ∀ l ∈ rows.lines.values, q l → p l.request) :
    (rows.part p).lines.values.filter q = rows.lines.values.filter q :=
  Table.filter_values_filter hq

/-- Reading the lines of requests of the part is local to the part. -/
theorem local_linesOfRequests {ids : List Int} (hp : ∀ id ∈ ids, p id) :
    (linesOfRequests ids).Local p rows := by
  intro n n'
  simp only [Book.perform]
  rw [filter_part_lines fun l _ hl => hp _ (by simpa using hl)]
  exact .ok rfl rfl

/-- Locking the lines of an offer is local to a part that has all of them. -/
theorem local_lockLinesOfOffer {offer : Int}
    (hp : ∀ l ∈ rows.lines.values, l.offer = offer → p l.request) :
    (lockLinesOfOffer offer).Local p rows := by
  intro n n'
  simp only [Book.perform, Book.demand_true]
  rw [filter_part_lines fun l hl ho => hp l hl (by simpa using ho)]
  split
  · exact .error _
  · exact .ok rfl rfl

/-! ### Changing lines -/

/-- Lines of the part are cancelled. -/
theorem splits_cancelWhere {q : Line → Bool} (hq : ∀ l ∈ rows.lines.values, q l → p l.request)
    (by_ : String) (reason : CancelReason) (now : Instant) (n n' : Int) :
    Splits p rows (Book.cancelWhere (fun _ => true) ⟨rows, n⟩ q by_ reason now)
      (Book.cancelWhere (fun _ => true) ⟨rows.part p, n'⟩ q by_ reason now) := by
  simp only [Book.cancelWhere, Book.demandEach_true]
  rw [filter_part_lines fun l hl hp => hq l hl (Bool.and_eq_true_iff.1 hp).2]
  refine .ok (part_mapLines fun l => by split <;> rfl)
    (rest_mapLines (fun l => by split <;> rfl) fun l hl hp => if_neg fun h => hp ?_)
  exact hq l hl (Bool.and_eq_true_iff.1 h).2

/-- Cancelling the lines of an offer is local to a part that has all of them. -/
theorem local_cancelByOffer {offer : Int}
    (hp : ∀ l ∈ rows.lines.values, l.offer = offer → p l.request) (by_ : String)
    (reason : CancelReason) (now : Instant) :
    (cancelByOffer offer by_ reason now).Local p rows :=
  splits_cancelWhere (fun l hl ho => hp l hl (by simpa using ho)) by_ reason now

/-- Cancelling the lines of requests of the part is local to the part. -/
theorem local_cancelByRequests {ids : List Int} (hp : ∀ id ∈ ids, p id) (by_ : String)
    (reason : CancelReason) (now : Instant) :
    (cancelByRequests ids by_ reason now).Local p rows :=
  splits_cancelWhere (fun l _ hl => hp _ (by simpa using hl)) by_ reason now

/-- Cancelling lines is local to a part that has all of them. -/
theorem local_cancelLines {ids : List Int}
    (hp : ∀ l ∈ rows.lines.values, l.id ∈ ids → p l.request) (by_ : String)
    (reason : CancelReason) (now : Instant) : (cancelLines ids by_ reason now).Local p rows :=
  splits_cancelWhere (fun l hl hid => hp l hl (by simpa using hid)) by_ reason now

/-- Setting the status of lines is local to a part that has all of them. -/
theorem local_setLineStatuses {ids : List Int}
    (hp : ∀ l ∈ rows.lines.values, l.id ∈ ids → p l.request) (status : LineStatus)
    (now : Instant) : (setLineStatuses ids status now).Local p rows := by
  intro n n'
  simp only [Book.perform, Book.demandEach_true]
  rw [filter_part_lines fun l hl hid => hp l hl (by simpa using hid)]
  refine .ok (part_mapLines fun l => by split <;> rfl)
    (rest_mapLines (fun l => by split <;> rfl) fun l hl hnot => if_neg fun h => hnot ?_)
  exact hp l hl (by simpa using h)

/-! ### Changing requests -/

/-- Setting the status of a request of the part is local to the part. -/
theorem local_setRequestStatus (hk : rows.Keyed) {id : Int} (hp : p id) (status : RequestStatus)
    (now : Instant) : (setRequestStatus id status now).Local p rows := by
  intro n n'
  simp only [Book.perform, Book.request, get?_part_requests hk hp, Book.demand_true]
  cases rows.requests.get? id with
  | none => exact .error _
  | some r =>
    refine .ok (part_mapRequests fun r => by split <;> rfl)
      (rest_mapRequests (fun r => by split <;> rfl) fun r hr => if_neg fun h => hr ?_)
    rw [beq_iff_eq.1 h]
    exact hp

/-- Deleting a request of the part is local to the part. -/
theorem local_deleteRequest (hk : rows.Keyed) {id : Int} (hp : p id) :
    (deleteRequest id).Local p rows := by
  intro n n'
  simp only [Book.perform, Book.request, get?_part_requests hk hp, Book.demand_true]
  cases rows.requests.get? id with
  | none => exact .error _
  | some r =>
    exact .ok (part_removeRequest id) (rest_removeRequest hp)

end Call
end LoanDesk
