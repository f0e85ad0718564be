/-
# Tuples of an insertion

An insertion lists columns, and tuples of places with values bound to them. A server that carries it
out makes a row of each tuple: a number of its own in the first column, what is bound in the columns
that are listed, and nothing in the others; the numbers ascend in the order of the tuples. It gives
back the columns that the statement asks for, row by row in any order (`Sql.Inserts`).

The rows that a server gives back are those of what a creating call makes, one by one
(`Sql.Writes`, `Sql.Inserts.lines`).
-/

import LoanDesk.Proofs.Sql.Reading

namespace LoanDesk

namespace Sql

namespace Insertion

/-- The values of each tuple. -/
def tuples (s : Insertion) (params : List Value) : List (List Value) :=
  s.rows.map fun row => row.map (Operand.value params)

/-- What the server gives back of the row that it makes of a tuple. -/
def newRow (s : Insertion) (id : Int) (values : List Value) : Row :=
  project s.returning (("id", .int id) :: s.columns.zip values)

end Insertion

/-- The server makes rows of the tuples of an insertion, under these numbers where there are as many
of them, and gives them back in any order. -/
def Inserts (replies : Replies) (ids : List Int) : Prop :=
  ∀ (s : Insertion) (params : List Value), s.rows.length = ids.length →
    ∃ stored : List (Int × List Value), stored.Perm (ids.zip (s.tuples params)) ∧
      replies ⟨.insert s, params⟩ = .ok (.rows (stored.map fun x => s.newRow x.1 x.2))

/-- The query inserts one tuple, and under the number the row comes back for it. -/
def Writes (q : Query) (id : Int) (row : Row) : Prop :=
  ∃ s tuple, q.statement = .insert s ∧ s.rows = [tuple] ∧
    s.newRow id (tuple.map (Operand.value q.params)) = row

variable {replies : Replies}

/-- One tuple makes one row. -/
theorem Inserts.one {id : Int} (h : Inserts replies [id]) {q : Query} {row : Row}
    (hw : Writes q id row) : replies q = .ok (.rows [row]) := by
  obtain ⟨_, params⟩ := q
  obtain ⟨s, tuple, rfl, hs, hrow⟩ := hw
  obtain ⟨stored, hperm, hreply⟩ := h s params (by rw [hs]; rfl)
  rw [Insertion.tuples, hs] at hperm
  rw [hreply, List.perm_singleton.1 hperm, ← hrow]
  rfl

section Writes

variable (id : Int) (now : Instant)

/-- A new request is written as it is stored. -/
theorem writes_request (d : RequestDraft) :
    Writes (createRequestQuery d now) id (requestRow (d.toRequest id now)) :=
  ⟨_, _, rfl, rfl, rfl⟩

/-- A flow that is not specified is bound as nothing. -/
theorem writes_offer (d : OfferDraft) :
    Writes (createOfferQuery d now) id (offerRow (d.toOffer id now)) :=
  ⟨_, _, rfl, rfl, rfl⟩

/-- A new line is written as it is stored. -/
theorem writes_line (offer request : Int) (d : LineDraft) :
    Writes (createLinesQuery offer request [d] now) id (lineRow (d.toLine id offer request now)) :=
  ⟨_, _, rfl, rfl, rfl⟩

/-- A new contract is written as it is stored. -/
theorem writes_contract (d : ContractDraft) :
    Writes (createContractQuery d now) id (contractRow (d.toContract id now)) :=
  ⟨_, _, rfl, rfl, rfl⟩

/-- A new record of a run is written as it is stored. -/
theorem writes_job (e : JobEntry) : Writes (createJobQuery e now) id (jobRow (e.toRecord id now)) :=
  ⟨_, _, rfl, rfl, rfl⟩

end Writes

/-! ### Many tuples -/

/-- In a list of equal stretches a place is found by the number of its stretch. -/
theorem getElem?_flatMap {α β : Type} {n : Nat} {f : α → List β} (hf : ∀ a, (f a).length = n) :
    ∀ (as : List α) (i j : Nat), j < n →
      (as.flatMap f)[n * i + j]? = as[i]?.bind fun a => (f a)[j]?
  | [], i, j, _ => by simp
  | a :: as, 0, j, hj => by
    rw [List.flatMap_cons, Nat.mul_zero, Nat.zero_add, List.getElem?_append_left (by rw [hf]; exact hj)]
    rfl
  | a :: as, i + 1, j, hj => by
    have hplace : n * (i + 1) + j - (f a).length = n * i + j := by
      rw [hf, Nat.mul_succ]
      omega
    rw [List.flatMap_cons, List.getElem?_append_right (by rw [hf, Nat.mul_succ]; omega), hplace,
      getElem?_flatMap hf as i j hj]
    rfl

/-- **Every tuple finds its own values** where the values of all are bound one after another. -/
theorem values_places {α : Type} {n : Nat} {f : α → List Value} (hf : ∀ a, (f a).length = n)
    (as : List α) : (List.range as.length).map
      (fun i => (places (n * i + 1) n).map (Operand.value (as.flatMap f))) = as.map f := by
  refine List.ext_getElem (by simp) fun i hi hi' => ?_
  have hlen : i < as.length := by simpa using hi'
  rw [List.getElem_map, List.getElem_range, List.getElem_map, places, List.map_map]
  refine List.ext_getElem (by simp [hf]) fun j hj hj' => ?_
  have hjn : j < n := by rwa [hf] at hj'
  have hplace : n * i + 1 + j = n * i + j + 1 := by omega
  rw [List.getElem_map, List.getElem_range, Function.comp_apply, hplace, Operand.value,
    getElem?_flatMap hf as i j hjn, List.getElem?_eq_getElem hlen, Option.bind_some,
    List.getElem?_eq_getElem hj', Option.getD_some]

/-- Lines that are made under some numbers have these. -/
theorem ids_zipWith {offer request : Int} {now : Instant} : ∀ {ids : List Int}
    {ds : List LineDraft}, ids.length = ds.length →
      (List.zipWith (fun id d => d.toLine id offer request now) ids ds).map Line.id = ids
  | [], [], _ => rfl
  | id :: ids, d :: ds, h => by
    rw [List.zipWith_cons_cons, List.map_cons, ids_zipWith (Nat.succ.inj h)]
    rfl

/-- The rows that come back for new lines are those of the lines, in any order. -/
theorem Inserts.lines {ids : List Int} (h : Inserts replies ids) (offer request : Int)
    {ds : List LineDraft} (hlen : ids.length = ds.length) (now : Instant) :
    ∃ ls : List Line,
      ls.Perm (List.zipWith (fun id d => d.toLine id offer request now) ids ds) ∧
      replies (createLinesQuery offer request ds now) = .ok (.rows (ls.map lineRow)) := by
  let s : Insertion := {
    table := lineTable, columns := newLineColumns
    rows := (List.range ds.length).map fun i => places (12 * i + 1) 12, returning := lineColumns }
  obtain ⟨stored, hperm, hreply⟩ := h s (ds.flatMap fun d => newLineValues offer request d now)
    (by rw [List.length_map, List.length_range, hlen])
  have htuples : s.tuples (ds.flatMap fun d => newLineValues offer request d now) =
      ds.map fun d => newLineValues offer request d now := by
    rw [Insertion.tuples, List.map_map]
    exact values_places (f := fun d => newLineValues offer request d now) (fun _ => rfl) ds
  rw [htuples, List.zip_map_right] at hperm
  obtain ⟨pairs, hpairs, rfl⟩ := exists_map_of_perm hperm
  have hmade : (ids.zip ds).map (fun x => x.2.toLine x.1 offer request now) =
      List.zipWith (fun id d => d.toLine id offer request now) ids ds := List.map_zip_eq_zipWith
  refine ⟨pairs.map fun x => x.2.toLine x.1 offer request now, ?_, hreply.trans ?_⟩
  · rw [← hmade]
    exact hpairs.map _
  · rw [List.map_map, List.map_map]
    rfl

end Sql
end LoanDesk
