/-
# What calls add to what is seen

A call that succeeds takes just the numbers of the rows that it creates, one after another, and what
is seen after it was seen before or has been created by it (`Book.grows_perform`). A call that fails
writes only rows that are there, and adds nothing to what is seen (`Rows.Grows.foldl_put`).
-/

import LoanDesk.Proofs.Store.Answers
import LoanDesk.Proofs.Store.Isolation
import LoanDesk.Proofs.Store.Residue

namespace LoanDesk

/-- The number of a row. -/
def TableName.number : (n : TableName) → n.Row → Int
  | .requests => Request.id
  | .offers => Offer.id
  | .lines => Line.id
  | .contracts => Contract.id
  | .sheets => Sheet.id
  | .ceilings => Ceiling.id
  | .jobs => JobRecord.id

/-- The tables with something else for one of the names. -/
def Tables.set {F : Type → Type} (t : Tables F) : (n : TableName) → F n.Row → Tables F
  | .requests, x => { t with requests := x }
  | .offers, x => { t with offers := x }
  | .lines, x => { t with lines := x }
  | .contracts, x => { t with contracts := x }
  | .sheets, x => { t with sheets := x }
  | .ceilings, x => { t with ceilings := x }
  | .jobs, x => { t with jobs := x }

/-- The table that was set is found under its name. -/
theorem Tables.get_set {F : Type → Type} (t : Tables F) (n : TableName) (x : F n.Row) :
    (t.set n x).get n = x := by
  cases n <;> rfl

/-- The tables of other names are as they were. -/
theorem Tables.get_set_of_ne {F : Type → Type} {t : Tables F} {n m : TableName} {x : F n.Row}
    (h : m ≠ n) : (t.set n x).get m = t.get m := by
  cases n <;> cases m <;> first | rfl | exact absurd rfl h

/-- Setting a table to what it is changes nothing. -/
theorem Tables.set_get {F : Type → Type} (t : Tables F) (n : TableName) : t.set n (t.get n) = t := by
  cases n <;> rfl

/-- In each of the tables rows stand under their own numbers. -/
theorem Rows.Keyed.get {rows : Rows} (h : rows.Keyed) :
    ∀ n : TableName, (Tables.get rows n).Keyed n.number
  | .requests => h.requests
  | .offers => h.offers
  | .lines => h.lines
  | .contracts => h.contracts
  | .sheets => h.sheets
  | .ceilings => h.ceilings
  | .jobs => h.jobs

/-- The rows that a call has created: their tables and numbers, in the order in which they were
created. -/
def Call.created : (c : Call) → c.Answer → List (TableName × Int)
  | .createRequest _ _, r => [(.requests, r.id)]
  | .createOffer _ _, o => [(.offers, o.id)]
  | .createLines _ _ _ _, ls => ls.map fun l => (.lines, l.id)
  | .createContract _ _, k => [(.contracts, k.id)]
  | .createSheet _ _ _ _, s => [(.sheets, s.id)]
  | .createCeiling _ _ _, c => [(.ceilings, c.id)]
  | .createJob _ _, j => [(.jobs, j.id)]
  | _, _ => []

/-- So many numbers, from the one after `last`. -/
def numbersAfter (last : Int) : Nat → List Int
  | 0 => []
  | n + 1 => (last + 1) :: numbersAfter (last + 1) n

/-- The numbers of two stretches follow each other. -/
theorem numbersAfter_add (last : Int) (m n : Nat) :
    numbersAfter last (m + n) = numbersAfter last m ++ numbersAfter (last + m) n := by
  induction m generalizing last with
  | zero => simp [numbersAfter]
  | succ m ih =>
    have hlast : last + 1 + (m : Int) = last + ((m + 1 : Nat) : Int) := by omega
    rw [Nat.succ_add, numbersAfter, numbersAfter, ih, List.cons_append, hlast]

/-- There are as many numbers as were asked for. -/
theorem length_numbersAfter (last : Int) (n : Nat) : (numbersAfter last n).length = n := by
  induction n generalizing last with
  | zero => rfl
  | succ n ih => rw [numbersAfter, List.length_cons, ih]

/-- The numbers lie above the last and reach up to so many more. -/
theorem mem_numbersAfter {last id : Int} {n : Nat} :
    id ∈ numbersAfter last n ↔ last < id ∧ id ≤ last + n := by
  induction n generalizing last with
  | zero =>
    rw [numbersAfter]
    exact ⟨nofun, fun h => absurd h.1 (by simpa using h.2)⟩
  | succ n ih => rw [numbersAfter, List.mem_cons, ih]; omega

/-- The numbers ascend. -/
theorem ascending_numbersAfter (last : Int) (n : Nat) : (numbersAfter last n).Pairwise (· < ·) := by
  induction n generalizing last with
  | zero => exact .nil
  | succ n ih => exact List.pairwise_cons.2 ⟨fun id hid => (mem_numbersAfter.1 hid).1, ih _⟩

/-! ### What a call adds to what is seen -/

/-- A row of a part of a table stands in the table. -/
theorem Table.isSome_of_filter {α : Type} {t : Table α} {p : α → Bool} {k : Int}
    (h : ((t.filter p).get? k).isSome) : (t.get? k).isSome := by
  obtain ⟨a, ha⟩ := Option.isSome_iff_exists.1 h
  rw [(get?_filter_eq_some.1 ha).1]
  rfl

/-- Rows are only where there were rows before, or where new ones were put. -/
def Rows.Grows (rows rows' : Rows) (new : List (TableName × Int)) : Prop :=
  ∀ n id, ((rows'.get n).get? id).isSome → ((rows.get n).get? id).isSome ∨ (n, id) ∈ new

namespace Rows

variable {rows rows' : Rows} {n : TableName}

/-- Rows that stay as they are have not grown. -/
theorem grows_refl (rows : Rows) : rows.Grows rows [] := fun _ _ => Or.inl

/-- Rows that grow twice have grown by the new ones of both. -/
theorem Grows.trans {rows'' : Rows} {new new' : List (TableName × Int)} (h : rows.Grows rows' new)
    (h' : rows'.Grows rows'' new') : rows.Grows rows'' (new ++ new') := by
  intro n id hid
  rcases h' n id hid with hid | hid
  · exact (h n id hid).imp_right fun hmem => List.mem_append_left _ hmem
  · exact Or.inr (List.mem_append_right _ hid)

/-- A row is put into one of the tables. -/
theorem grows_insert (n : TableName) (id : Int) (a : n.Row) :
    rows.Grows (rows.set n ((rows.get n).insert id a)) [(n, id)] := by
  intro m k hk
  by_cases hm : m = n
  · subst hm
    rw [Tables.get_set, Table.get?_insert] at hk
    by_cases hid : id = k
    · exact Or.inr (List.mem_singleton.2 (by rw [hid]))
    · rw [if_neg hid] at hk
      exact Or.inl hk
  · rw [Tables.get_set_of_ne hm] at hk
    exact Or.inl hk

/-- The rows of one of the tables are changed where they stand. -/
theorem grows_map (n : TableName) (f : n.Row → n.Row) :
    rows.Grows (rows.set n ((rows.get n).map f)) [] := by
  intro m k hk
  by_cases hm : m = n
  · subst hm
    rw [Tables.get_set, Table.get?_map, Option.isSome_map] at hk
    exact Or.inl hk
  · rw [Tables.get_set_of_ne hm] at hk
    exact Or.inl hk

/-- Lines that are stored one after another are what rows grow by. -/
theorem grows_foldl_putLine (ls : List Line) :
    rows.Grows (ls.foldl putLine rows) (ls.map fun l => (.lines, l.id)) := by
  induction ls generalizing rows with
  | nil => exact grows_refl rows
  | cons l ls ih => exact (grows_insert .lines l.id l).trans ih

/-- Rows do not grow by a deletion. -/
theorem grows_removeRequest (id : Int) : rows.Grows (rows.removeRequest id) [] := by
  intro n k hk
  left
  cases n with
  | contracts | ceilings | jobs => exact hk
  | requests => exact Table.isSome_of_filter (p := fun r : Request => r.id != id) hk
  | offers => exact Table.isSome_of_filter (p := fun o : Offer => o.request != id) hk
  | lines => exact Table.isSome_of_filter (p := fun l : Line => l.request != id) hk
  | sheets => exact Table.isSome_of_filter (p := fun s : Sheet => s.request != id) hk

end Rows

/-- Lines stand under consecutive numbers. -/
theorem LineDraft.ids_toLines (offer request : Int) (now : Instant) (ds : List LineDraft)
    (last : Int) :
    (toLines offer request now (last + 1) ds).map Line.id = numbersAfter last ds.length := by
  induction ds generalizing last with
  | nil => rfl
  | cons d ds ih =>
    rw [toLines, List.map_cons, List.length_cons, numbersAfter, ih]
    rfl

namespace Book

variable {free : RowKey → Bool} {b b' : Book}

/-- A call that only reads leaves the book as it is. -/
theorem perform_reads {c : Call} (hc : c.Reads) {a : c.Answer}
    (h : b.perform free c = .ok (a, b')) : b' = b := by
  cases c with
  | lockRequest => exact (lockRequest_eq_ok.1 h).2.2
  | lockLinesOfOffer => exact (lockLinesOfOffer_eq_ok.1 h).2.2.2
  | offerWithRequest => exact (offerWithRequest_eq_ok.1 h).2.2
  | getLine => exact (getLine_eq_ok.1 h).2
  | getContract => exact (getContract_eq_ok.1 h).2
  | getRequest id =>
    obtain ⟨r, -, hr⟩ := bind_eq_ok.1 h
    exact (congrArg Prod.snd (pure_eq_ok.1 hr)).symm
  | listRequests | countRequests | claimAboveRate | claimBySymbol | offersOfRequest
  | offersOfInvestor | linesOfRequests | expiredOffers | contractOfLine | currentCeiling
  | listJobs => exact (congrArg Prod.snd (Except.ok.inj h)).symm
  | _ => exact hc.elim

/-- **A call that succeeds takes just the numbers of the rows that it creates**, and puts no others
where there were none. -/
theorem grows_perform {c : Call} {a : c.Answer} (h : b.perform free c = .ok (a, b')) :
    b'.last = b.last + (c.created a).length ∧
      (c.created a).map Prod.snd = numbersAfter b.last (c.created a).length ∧
      b.rows.Grows b'.rows (c.created a) := by
  have hreads : c.Reads → b'.last = b.last ∧ b.rows.Grows b'.rows [] := by
    intro hc
    rw [perform_reads hc h]
    exact ⟨rfl, Rows.grows_refl _⟩
  cases c with
  | createRequest d now =>
    obtain ⟨rfl, -, rfl⟩ := createRequest_eq_ok.1 h
    exact ⟨rfl, rfl, Rows.grows_insert .requests _ _⟩
  | createOffer d now =>
    obtain ⟨-, rfl, rfl⟩ := createOffer_eq_ok.1 h
    exact ⟨rfl, rfl, Rows.grows_insert .offers _ _⟩
  | createLines offer req ds now =>
    obtain ⟨rfl, -, rfl⟩ := createLines_eq_ok.1 h
    have hids := LineDraft.ids_toLines offer req now ds b.last
    have hlen : ((LineDraft.toLines offer req now (b.last + 1) ds).map
        fun l => (TableName.lines, l.id)).length = ds.length := by
      rw [List.length_map, ← List.length_map Line.id, hids, length_numbersAfter]
    refine ⟨congrArg (b.last + ·) (congrArg Nat.cast hlen.symm), ?_, Rows.grows_foldl_putLine _⟩
    rw [Call.created, List.map_map, hlen]
    exact hids
  | createContract d now =>
    obtain ⟨-, rfl, rfl⟩ := createContract_eq_ok.1 h
    exact ⟨rfl, rfl, Rows.grows_insert .contracts _ _⟩
  | createSheet req by_ terms now =>
    obtain ⟨-, rfl, rfl⟩ := createSheet_eq_ok.1 h
    exact ⟨rfl, rfl, Rows.grows_insert .sheets _ _⟩
  | createCeiling rate affectedFrom now =>
    obtain ⟨rfl, rfl⟩ := createCeiling_eq_ok.1 h
    exact ⟨rfl, rfl, Rows.grows_insert .ceilings _ _⟩
  | createJob e now =>
    obtain ⟨rfl, rfl⟩ := createJob_eq_ok.1 h
    exact ⟨rfl, rfl, Rows.grows_insert .jobs _ _⟩
  | setRequestStatus id status now =>
    obtain ⟨-, -, rfl⟩ := setRequestStatus_eq_ok.1 h
    exact ⟨(Int.add_zero _).symm, rfl, Rows.grows_map .requests _⟩
  | setRequestStatuses ids status now =>
    obtain ⟨-, -, rfl⟩ := setRequestStatuses_eq_ok.1 h
    exact ⟨(Int.add_zero _).symm, rfl, Rows.grows_map .requests _⟩
  | deleteRequest id =>
    obtain ⟨-, -, -, rfl⟩ := deleteRequest_eq_ok.1 h
    exact ⟨(Int.add_zero _).symm, rfl, Rows.grows_removeRequest _⟩
  | cancelByOffer | cancelExpired | cancelLines | cancelByRequests =>
    obtain ⟨-, -, rfl⟩ := cancelWhere_eq_ok.1 h
    exact ⟨(Int.add_zero _).symm, rfl, Rows.grows_map .lines _⟩
  | setLineStatuses ids status now =>
    obtain ⟨-, -, rfl⟩ := setLineStatuses_eq_ok.1 h
    exact ⟨(Int.add_zero _).symm, rfl, Rows.grows_map .lines _⟩
  | attachContract line contract now =>
    obtain ⟨-, -, rfl⟩ := attachContract_eq_ok.1 h
    exact ⟨(Int.add_zero _).symm, rfl, Rows.grows_map .lines _⟩
  | setGuaranteeEnd id at_ =>
    obtain ⟨-, rfl⟩ := setGuaranteeEnd_eq_ok.1 h
    exact ⟨(Int.add_zero _).symm, rfl, Rows.grows_map .contracts _⟩
  | _ =>
    obtain ⟨hlast, hrows⟩ := hreads trivial
    exact ⟨hlast.trans (Int.add_zero _).symm, rfl, hrows⟩

end Book

/-! ### What a failed call adds -/

/-- A statement over many rows writes rows that are there. -/
theorem Call.isSome_of_mem_targets {rows : Rows} (hk : rows.Keyed) {c : Call} {x : Request ⊕ Line}
    (hx : x ∈ c.targets rows) : (rows.row? (.of x)).isSome := by
  have hcancelled : ∀ {p by_ reason now},
      x ∈ Call.targets.cancelled rows p by_ reason now → (rows.row? (.of x)).isSome := by
    intro p by_ reason now hx
    obtain ⟨_, hmem, rfl⟩ := List.mem_map.1 hx
    obtain ⟨l, hl, rfl⟩ := List.mem_map.1 hmem
    have hget := hk.lines.mem_values.1 (List.mem_filter.1 hl).1
    change ((rows.lines.get? l.id).map _).isSome
    rw [hget]
    rfl
  cases c with
  | setRequestStatuses ids status now =>
    obtain ⟨_, hmem, rfl⟩ := List.mem_map.1 hx
    obtain ⟨r, hr, rfl⟩ := List.mem_map.1 hmem
    change ((rows.requests.get? r.id).map _).isSome
    rw [(hk.requests.mem_pick.1 hr).1]
    rfl
  | setLineStatuses ids status now =>
    obtain ⟨_, hmem, rfl⟩ := List.mem_map.1 hx
    obtain ⟨l, hl, rfl⟩ := List.mem_map.1 hmem
    change ((rows.lines.get? l.id).map _).isSome
    rw [(hk.lines.mem_pick.1 hl).1]
    rfl
  | cancelByOffer | cancelExpired | cancelLines | cancelByRequests => exact hcancelled hx
  | _ => exact absurd hx List.not_mem_nil

namespace Rows

/-- Rows that are stored one after another stand under their own numbers. -/
theorem Keyed.foldl_put {xs : List (Request ⊕ Line)} {rows : Rows} (h : rows.Keyed) :
    (xs.foldl put rows).Keyed := by
  induction xs generalizing rows with
  | nil => exact h
  | cons x xs ih =>
    refine ih ?_
    cases x with
    | inl r => exact h.putRequest r
    | inr l => exact h.putLine l

/-- Rows are written that were there before. -/
theorem Grows.foldl_put {base rows : Rows} {xs : List (Request ⊕ Line)} (h : base.Grows rows [])
    (hx : ∀ x ∈ xs, (base.row? (.of x)).isSome) : base.Grows (xs.foldl put rows) [] := by
  induction xs generalizing rows with
  | nil => exact h
  | cons x xs ih =>
    obtain ⟨hx, hxs⟩ := List.forall_mem_cons.1 hx
    refine ih (fun n id hid => Or.inl ?_) hxs
    cases x with
    | inl r =>
      rcases (h.trans (grows_insert .requests r.id r)) n id hid with hid | hid
      · exact hid
      · obtain ⟨rfl, rfl⟩ := Prod.mk.inj (List.mem_singleton.1 hid)
        change ((base.requests.get? r.id).map _).isSome at hx
        rwa [Option.isSome_map] at hx
    | inr l =>
      rcases (h.trans (grows_insert .lines l.id l)) n id hid with hid | hid
      · exact hid
      · obtain ⟨rfl, rfl⟩ := Prod.mk.inj (List.mem_singleton.1 hid)
        change ((base.lines.get? l.id).map _).isSome at hx
        rwa [Option.isSome_map] at hx

end Rows

end LoanDesk
