/-
# What updates change

An update gives new values to the rows of its table that satisfy all of its conditions, and counts
each of them once; the other rows, and the other tables, stay as they are (`Executes`).

An update may mean a change of the entities in the rows: it selects just the rows of those that a
test selects, and makes of the row of each the row of what it becomes (`Update.Means`). Then it makes
of the database of a store that of the changed store (`Query.Means.run`). Each of the statements over
many rows means what the call of a store does, and where a call is given no numbers its script sends
nothing.
-/

import LoanDesk.Proofs.Sql.Filtering
import LoanDesk.Proofs.Sql.Reading
import LoanDesk.Proofs.Store.Register

namespace LoanDesk

/-- One table is changed in the rows, and one in the database. -/
theorem Rows.database_set (rows : Rows) (n : TableName) (t : Table n.Row) :
    Rows.database (rows.set n t) = fun title =>
      if title = n.title then t.values.map n.row else rows.database title := by
  funext title
  split
  · rename_i h
    rw [h, database_title, Tables.get_set]
  · rename_i h
    rw [database, database]
    cases hm : TableName.find? title with
    | none => rfl
    | some m =>
      have hne : m ≠ n := fun he => h (he ▸ TableName.title_of_find? hm).symm
      dsimp only
      rw [Tables.get_set_of_ne hne]

namespace Sql

/-! ### Updates -/

namespace Update

/-- The row satisfies all conditions. -/
def selects (u : Update) (params : List Value) (row : Row) : Bool :=
  u.conditions.all (·.holds params row)

/-- The row with the new values. -/
def change (u : Update) (params : List Value) (row : Row) : Row :=
  row.map fun c => (c.1, match u.set_.find? (·.1 == c.1) with
    | some x => x.2.value params
    | none => c.2)

/-- The rows of the table afterwards. -/
def apply (u : Update) (params : List Value) (rows : List Row) : List Row :=
  rows.map fun row => if u.selects params row then u.change params row else row

end Update

/-- The server carries updates out: the rows that satisfy all conditions get the new values, and
nothing else changes; it says how many rows these were. -/
def Executes (answer : Query → StateM Database (Except DatabaseError Reply)) : Prop :=
  ∀ (u : Update) (params : List Value) (db : Database), u.returning = [] →
    (answer ⟨.update u, params⟩).run db =
      (.ok (.affected ((db u.table).filter (u.selects params)).length),
        fun title => if title = u.table then u.apply params (db title) else db title)

/-- What a script comes to on a database, with the database afterwards. -/
def runOn (answer : Query → StateM Database (Except DatabaseError Reply)) {α : Type} (f : Work α)
    (db : Database) : Except StoreError α × Database :=
  (Script.run answer f.run).run db

variable {answer : Query → StateM Database (Except DatabaseError Reply)}

/-- An update that is carried out gives the number of its rows. -/
theorem runOn_execute {q : Query} {n : Nat} {db db' : Database}
    (h : (answer q).run db = (.ok (.affected n), db')) (wrap : DatabaseError → StoreError) :
    runOn answer (ExceptT.adapt wrap (execute q)) db = (.ok n, db') := by
  change (answer q >>= fun r => Script.run answer _).run db = _
  rw [StateT.run_bind, h]
  rfl

/-- The update selects the rows of those that pass a test, and makes of each row that of what becomes
of the entity in it. -/
structure Update.Means (u : Update) (params : List Value) (n : TableName) (p : n.Row → Bool)
    (f : n.Row → n.Row) : Prop where
  table : u.table = n.title
  returning : u.returning = []
  selects : ∀ a, u.selects params (n.row a) = p a
  change : ∀ a, u.change params (n.row a) = n.row (f a)

namespace Update.Means

variable {u : Update} {params : List Value} {n : TableName} {p : n.Row → Bool} {f : n.Row → n.Row}

/-- The update selects as many rows as the test does. -/
theorem filter_rows (h : u.Means params n p f) (as : List n.Row) :
    ((as.map n.row).filter (u.selects params)).length = (as.filter p).length := by
  rw [filter_map_of h.selects, List.length_map]

/-- The update makes of the rows what becomes of the entities. -/
theorem apply_rows (h : u.Means params n p f) (as : List n.Row) :
    u.apply params (as.map n.row) = (as.map fun a => if p a then f a else a).map n.row := by
  rw [apply, List.map_map, List.map_map]
  refine List.map_congr_left fun a _ => ?_
  rw [Function.comp_apply, Function.comp_apply, h.selects a, h.change a, apply_ite n.row]

end Update.Means

/-- The query is an update and means this with the values that are bound. -/
def Query.Means (q : Query) (n : TableName) (p : n.Row → Bool) (f : n.Row → n.Row) : Prop :=
  ∃ u, q.statement = .update u ∧ u.Means q.params n p f

namespace Query.Means

variable {q : Query} {n : TableName} {p : n.Row → Bool} {f : n.Row → n.Row}

/-- **An update does to the database of a store what is meant by it.** -/
theorem run (h : q.Means n p f) (he : Executes answer) (rows : Rows)
    (wrap : DatabaseError → StoreError) :
    runOn answer (ExceptT.adapt wrap (execute q)) rows.database =
      (.ok ((rows.get n).values.filter p).length,
        Rows.database (rows.set n ((rows.get n).map fun a => if p a then f a else a))) := by
  obtain ⟨_, params⟩ := q
  obtain ⟨u, rfl, hu⟩ := h
  refine (runOn_execute (he u params rows.database hu.returning) wrap).trans ?_
  rw [hu.table, Rows.database_title, hu.filter_rows, Rows.database_set, Table.values_map,
    ← hu.apply_rows]
  refine congrArg (Prod.mk _) (funext fun title => ?_)
  split
  · rename_i htitle
    rw [htitle, Rows.database_title]
  · rfl

/-- So it is where the query goes with numbers. Where there are none nothing is sent, and nothing is
meant to change. -/
theorem run_changeMany (h : q.Means n p f) (he : Executes answer) (rows : Rows)
    (ids : List Int) (hnil : ids = [] → ∀ a, p a = false) :
    runOn answer (changeMany ids q) rows.database =
        (.ok ((rows.get n).values.filter p).length,
          Rows.database (rows.set n ((rows.get n).map fun a => if p a then f a else a))) ∧
      (ids = [] → (changeMany ids q).run =
        .done (.ok ((rows.get n).values.filter p).length)) := by
  cases ids with
  | nil =>
    have hnone : ∀ a, ¬p a = true := fun a => by simp [hnil rfl a]
    have hmap : ((rows.get n).map fun a => if p a then f a else a) = rows.get n :=
      (Table.map_congr fun _ a _ => if_neg (hnone a)).trans (Table.map_id _)
    rw [List.filter_eq_nil_iff.2 fun a _ => hnone a, hmap, Tables.set_get]
    exact ⟨rfl, fun _ => rfl⟩
  | cons id ids => exact ⟨h.run he rows .database, nofun⟩

end Query.Means

/-! ### The statements over many rows -/

/-- The condition for open lines holds of these. -/
theorem holds_isPending (params : List Value) (l : Line) :
    isPending.holds params (lineRow l) = l.isPending := word_beq l.status .pending

section Statements

variable (ids : List Int) (by_ : String) (reason : CancelReason) (now : Instant)

/-- The statement that cancels means that the open lines that its condition selects are cancelled. -/
theorem means_cancel {condition : Condition} {value : Value} {p : Line → Bool}
    (h : ∀ l params, condition.holds (value :: params) (lineRow l) = p l) :
    (cancelQuery condition value by_ reason now).Means .lines (fun l => l.isPending && p l)
      (·.cancelled by_ reason now) := by
  refine ⟨_, rfl, rfl, rfl, fun l => ?_, fun l => rfl⟩
  change (condition.holds (value :: _) (lineRow l) && (isPending.holds _ (lineRow l) && true)) = _
  rw [h, holds_isPending, Bool.and_true, Bool.and_comm]

/-- The open lines with one of the numbers in a column. -/
theorem means_cancelAmong (column : String) (key : Line → Int)
    (h : ∀ l, cell (lineRow l) column = .int (key l)) :
    (cancelQuery (among column 1) (.ints ids) by_ reason now).Means .lines
      (fun l => l.isPending && ids.contains (key l)) (·.cancelled by_ reason now) :=
  means_cancel by_ reason now fun l _ => congrArg (Value.isOneOf · (.ints ids)) (h l)

/-- The statement that sets statuses means that the lines of the numbers get the status. -/
theorem means_setLineStatuses (status : LineStatus) :
    Query.Means ⟨statusUpdate lineTable (among "id" 1), [.ints ids, wordOf status, .time now]⟩
      .lines (fun l => ids.contains l.id) (·.withStatus status now) :=
  ⟨_, rfl, rfl, rfl, fun _ => Bool.and_true _, fun _ => rfl⟩

/-- Requests get a status by one update. -/
theorem means_setRequestStatuses (status : RequestStatus) :
    Query.Means ⟨statusUpdate requestTable (among "id" 1), [.ints ids, wordOf status, .time now]⟩
      .requests (fun r => ids.contains r.id) (fun r => { r with status, updatedAt := now }) :=
  ⟨_, rfl, rfl, rfl, fun _ => Bool.and_true _, fun _ => rfl⟩

end Statements

end Sql

/-- The call changes rows that stand in tables already, with one statement over all of them. -/
def Call.Revises : Call → Prop
  | .cancelByOffer _ _ _ _ | .cancelExpired _ _ _ | .cancelLines _ _ _ _ | .cancelByRequests _ _ _ _
  | .setLineStatuses _ _ _ | .setRequestStatuses _ _ _ => True
  | _ => False

/-- The numbers that such a call is given, where these are a list. -/
def Call.ids? : Call → Option (List Int)
  | .cancelExpired ids _ _ | .cancelLines ids _ _ _ | .cancelByRequests ids _ _ _
  | .setLineStatuses ids _ _ | .setRequestStatuses ids _ _ => some ids
  | _ => none

namespace Sql

/-- **Updates change what a store changes.**  Where nobody else holds a row, each of the calls that
change many rows succeeds, and its script comes to the same number on the rows that its transaction
sees, kept as a database, and leaves there the rows that the transaction sees afterwards. So it is for
numbers that repeat, or that nothing stands under; and where a call is given an empty list its script
sends nothing. -/
theorem updates_match {s : Store} {tx : TxId} (hk : (s.view tx).Keyed)
    (hl : ∀ key holder, s.locks.holder? key = some holder → holder = tx) (he : Executes answer)
    {c : Call} (hc : c.Revises) :
    ∃ a t, s.perform tx c = (.ok a, t) ∧
      runOn answer (script c) (s.view tx).database = (.ok a, (t.view tx).database) ∧
      (c.ids? = some [] → (script c).run = .done (.ok a)) := by
  have hfree : ∀ key, s.locks.isFree tx key = true := fun key => Locks.isFree_iff.2 (hl key)
  have hmatch : ∀ {a rows}, (s.book tx).perform (s.locks.isFree tx) c =
        .ok (a, { s.book tx with rows }) →
      runOn answer (script c) (s.view tx).database = (.ok a, Rows.database rows) →
      (c.ids? = some [] → (script c).run = .done (.ok a)) →
      ∃ a t, s.perform tx c = (.ok a, t) ∧
        runOn answer (script c) (s.view tx).database = (.ok a, (t.view tx).database) ∧
        (c.ids? = some [] → (script c).run = .done (.ok a)) := by
    intro a rows hb hrun hnil
    obtain ⟨t, hp, hbook, -⟩ := Store.perform_of_book hk hb
    have hview : t.view tx = rows := congrArg Book.rows hbook
    exact ⟨a, t, hp, hview ▸ hrun, hnil⟩
  cases c with
  | cancelByOffer offer by_ reason now =>
    exact hmatch (Book.cancelWhere_eq_ok.2 ⟨rfl, fun _ _ _ _ => hfree _, rfl⟩)
      ((means_cancel by_ reason now fun _ _ => rfl).run he _ _) nofun
  | cancelExpired offers by_ now =>
    obtain ⟨hrun, hnil⟩ := (means_cancelAmong offers by_ .expired now "offer_id" (·.offer)
      fun _ => rfl).run_changeMany he (s.view tx) offers (by rintro rfl; simp)
    exact hmatch (Book.cancelWhere_eq_ok.2 ⟨rfl, fun _ _ _ _ => hfree _, rfl⟩) hrun
      fun h => hnil (Option.some.inj h)
  | cancelLines ids by_ reason now =>
    obtain ⟨hrun, hnil⟩ := (means_cancelAmong ids by_ reason now "id" (·.id)
      fun _ => rfl).run_changeMany he (s.view tx) ids (by rintro rfl; simp)
    exact hmatch (Book.cancelWhere_eq_ok.2 ⟨rfl, fun _ _ _ _ => hfree _, rfl⟩) hrun
      fun h => hnil (Option.some.inj h)
  | cancelByRequests ids by_ reason now =>
    obtain ⟨hrun, hnil⟩ := (means_cancelAmong ids by_ reason now "request_id" (·.request)
      fun _ => rfl).run_changeMany he (s.view tx) ids (by rintro rfl; simp)
    exact hmatch (Book.cancelWhere_eq_ok.2 ⟨rfl, fun _ _ _ _ => hfree _, rfl⟩) hrun
      fun h => hnil (Option.some.inj h)
  | setLineStatuses ids status now =>
    obtain ⟨hrun, hnil⟩ := (means_setLineStatuses ids now status).run_changeMany he (s.view tx) ids
      (by rintro rfl; simp)
    exact hmatch (Book.setLineStatuses_eq_ok.2 ⟨rfl, fun _ _ _ _ => hfree _, rfl⟩) hrun
      fun h => hnil (Option.some.inj h)
  | setRequestStatuses ids status now =>
    obtain ⟨hrun, hnil⟩ := (means_setRequestStatuses ids now status).run_changeMany he (s.view tx) ids
      (by rintro rfl; simp)
    exact hmatch (Book.setRequestStatuses_eq_ok.2 ⟨rfl, fun _ _ _ _ => hfree _, rfl⟩) hrun
      fun h => hnil (Option.some.inj h)
  | _ => exact hc.elim

namespace Story

open LoanDesk.Story

/-- A server that carries updates out. -/
def updating : Query → StateM Database (Except DatabaseError Reply) := fun q db =>
  match q.statement with
  | .update u => (.ok (.affected ((db u.table).filter (u.selects q.params)).length),
      fun title => if title = u.table then u.apply q.params (db title) else db title)
  | _ => (.ok (.rows []), db)

/-- The server of the story carries updates out. -/
theorem executes_updating : Executes updating := fun _ _ _ _ => rfl

/-- All that is locked is line 4, by transaction 2 itself. -/
theorem locks_engaged (key : RowKey) (holder : TxId)
    (h : engaged.locks.holder? key = some holder) : holder = 2 := by
  have hlocks : engaged.locks = Locks.none.take 2 (.line 4) := by rfl
  rw [hlocks, Locks.holder?_take] at h
  split at h
  · exact (Option.some.inj h).symm
  · cases key <;> cases h

/-- Of two lines, one of them named twice, and a line that does not exist, the one that is still
pending is cancelled. -/
theorem updates_match_repeated : ∃ t,
    engaged.perform 2 (.cancelLines [3, 4, 3, 9] "desk" .highLoanRate noon) = (.ok 1, t) ∧
      runOn updating (script (.cancelLines [3, 4, 3, 9] "desk" .highLoanRate noon))
        (engaged.view 2).database = (.ok 1, (t.view 2).database) ∧
      (t.view 2).lines.values.map (fun l => (l.id, l.status, l.cancelledBy)) =
        [(3, .cancelled, some "desk"), (4, .creatingPackage, none)] := by
  obtain ⟨n, t, hp, hrun, -⟩ := updates_match (reached_engaged.keyed 2) locks_engaged
    executes_updating (c := .cancelLines [3, 4, 3, 9] "desk" .highLoanRate noon) trivial
  have hn : (engaged.perform 2 (.cancelLines [3, 4, 3, 9] "desk" .highLoanRate noon)).1 = .ok 1 := by
    rfl
  rw [hp] at hn
  cases hn
  have ht : (engaged.perform 2 (.cancelLines [3, 4, 3, 9] "desk" .highLoanRate noon)).2 = t :=
    congrArg Prod.snd hp
  refine ⟨t, hp, hrun, ?_⟩
  rw [← ht]
  decide +kernel

end Story

end Sql
end LoanDesk
