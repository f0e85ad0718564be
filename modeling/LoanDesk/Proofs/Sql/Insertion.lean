/-
# What is read back from an insertion

`Call.made` is what a creating call makes under given numbers. The rows that a server gives back for
an insertion are the rows of that, and the lines of an offer, which may come in any order, are put in
that of their numbers again. So a script comes to what the call makes (`Sql.outcome_made`), and that
is what the call gives in a store (`Book.made_created`).
-/

import LoanDesk.Proofs.Sql.Insertion.Tuples
import LoanDesk.Proofs.Store.Register

namespace LoanDesk

/-- The call creates rows. -/
def Call.Creates : Call → Prop
  | .createRequest _ _ | .createOffer _ _ | .createLines _ _ _ _ | .createContract _ _
  | .createSheet _ _ _ _ | .createCeiling _ _ _ | .createJob _ _ => True
  | _ => False

/-- What a call makes under the numbers, if these are as many as it needs. -/
def Call.made : (c : Call) → List Int → Option c.Answer
  | .createRequest d now, [id] => some (d.toRequest id now)
  | .createOffer d now, [id] => some (d.toOffer id now)
  | .createLines offer request ds now, ids =>
    if ids.length = ds.length then
      some (List.zipWith (fun id d => d.toLine id offer request now) ids ds)
    else none
  | .createContract d now, [id] => some (d.toContract id now)
  | .createSheet request by_ terms now, [id] => some ⟨id, request, by_, terms, now⟩
  | .createCeiling rate affectedFrom now, [id] => some ⟨id, rate, affectedFrom, now⟩
  | .createJob e now, [id] => some (e.toRecord id now)
  | _, _ => none

/-- The lines of a batch get one number after the other. -/
theorem LineDraft.toLines_eq_zipWith (offer request : Int) (now : Instant) (ds : List LineDraft)
    (last : Int) : toLines offer request now (last + 1) ds =
      List.zipWith (fun id d => d.toLine id offer request now) (numbersAfter last ds.length) ds := by
  induction ds generalizing last with
  | nil => rfl
  | cons d ds ih => rw [toLines, List.length_cons, numbersAfter, List.zipWith_cons_cons, ih]

/-- **What a call gives is what it makes** under the numbers that it has taken. -/
theorem Book.made_created {free : RowKey → Bool} {b b' : Book} {c : Call} (hc : c.Creates)
    {a : c.Answer} (h : b.perform free c = .ok (a, b')) :
    c.made ((c.created a).map Prod.snd) = some a := by
  cases c with
  | createRequest d now => rw [(createRequest_eq_ok.1 h).1]; rfl
  | createOffer d now => rw [(createOffer_eq_ok.1 h).2.1]; rfl
  | createLines offer request ds now =>
    obtain ⟨rfl, -, -⟩ := createLines_eq_ok.1 h
    have hids := LineDraft.ids_toLines offer request now ds b.last
    have hcreated : ((LineDraft.toLines offer request now (b.last + 1) ds).map
        fun l => (TableName.lines, l.id)).map Prod.snd = numbersAfter b.last ds.length := by
      rw [List.map_map]
      exact hids
    rw [Call.created, hcreated, Call.made, if_pos (length_numbersAfter _ _),
      LineDraft.toLines_eq_zipWith]
  | createContract d now => rw [(createContract_eq_ok.1 h).2.1]; rfl
  | createSheet request by_ terms now => rw [(createSheet_eq_ok.1 h).2.1]; rfl
  | createCeiling rate affectedFrom now => rw [(createCeiling_eq_ok.1 h).1]; rfl
  | createJob e now => rw [(createJob_eq_ok.1 h).1]; rfl
  | _ => exact hc.elim

/-- A call makes something of as many numbers as it has taken. -/
theorem Call.exists_made {c : Call} {a : c.Answer} {ids ids' : List Int} (h : c.made ids = some a)
    (hlen : ids'.length = ids.length) : ∃ x, c.made ids' = some x := by
  cases c with
  | createLines offer request ds now =>
    rw [made] at h
    split at h
    · exact ⟨_, if_pos (hlen.trans ‹_›)⟩
    · cases h
  | createRequest | createOffer | createContract | createSheet | createCeiling | createJob =>
    match ids, ids', h, hlen with
    | [_], [_], _, _ => exact ⟨_, rfl⟩
  | _ => cases h

/-! ### The order of numbers -/

/-- There is one ascending order. -/
theorem mergeSort_of_perm {α : Type} {key : α → Int} {as bs : List α} (h : as.Perm bs)
    (hb : bs.Pairwise (key · < key ·)) : as.mergeSort (fun a b => key a ≤ key b) = bs := by
  have hperm : (as.mergeSort (fun a b => key a ≤ key b)).Perm bs := (List.mergeSort_perm _ _).trans h
  have hnodup : (bs.map key).Nodup :=
    List.pairwise_map.2 (hb.imp fun hlt => Int.ne_of_lt hlt)
  have hsorted := @List.pairwise_mergeSort _ (fun a b => key a ≤ key b)
    (fun _ _ _ hab hbc => by simp only [decide_eq_true_eq] at *; omega)
    (fun a b => by simp only [Bool.or_eq_true, decide_eq_true_eq]; omega) as
  refine List.Perm.eq_of_pairwise (fun a b ha hb' hab hba => ?_) hsorted
    (hb.imp fun hlt => decide_eq_true (Int.le_of_lt hlt)) hperm
  simp only [decide_eq_true_eq] at hab hba
  exact List.inj_on_of_nodup_map hnodup (hperm.mem_iff.1 ha) hb' (Int.le_antisymm hab hba)

namespace Sql

variable {replies : Replies}

/-! ### Scripts -/

/-- Only the number is read from the row, and the rest is what was sent. -/
theorem outcome_numbered {α : Type} {blame : ∀ {β : Type}, Fetch β → Work β}
    (hb : Passes replies blame) {q : Query} {id : Int}
    (h : replies q = .ok (.rows [[("id", .int id)]])) (f : Int → α) :
    outcome replies (do let id ← blame (plainOf (onlyInt "id") q); return f id) = .ok (f id) := by
  have hid : outcome replies (plainOf (onlyInt "id") q) = .ok id := outcome_plainOf h rfl
  rw [outcome_bind, hb _ _ hid]
  rfl

/-- Lines are read with the numbers in their rows. -/
theorem outcome_numberedLines {q : Query} {ls : List Line}
    (h : replies q = .ok (.rows (ls.map lineRow))) :
    outcome replies (do
      let rows ← fetchAll q
      let lines ← ofDatabase (rows.mapM readLine)
      return (rows.map fun row => (intAt? row "id").getD 0).zip lines) =
        .ok (ls.map fun l => (l.id, .ok l)) := by
  have hkeys : ((ls.map lineRow).map fun row => (intAt? row "id").getD 0).zip (ls.map .ok) =
      ls.map fun l => (l.id, (.ok l : Words Line)) := by
    rw [List.map_map, List.zip_map', List.map_congr_left]
    exact fun l _ => rfl
  rw [outcome_bind, outcome_fetchAll h, ← hkeys]
  change outcome replies (ofDatabase ((ls.map lineRow).mapM readLine) >>= fun lines => pure
    (((ls.map lineRow).map fun row => (intAt? row "id").getD 0).zip lines)) = _
  rw [mapM_read readLine_lineRow]
  rfl

/-- The numbers put lines in the order in which these were made. -/
theorem sort_numberedLines {ls made : List Line} (h : ls.Perm made)
    (ha : made.Pairwise (·.id < ·.id)) :
    ((ls.map fun l => (l.id, (.ok l : Words Line))).mergeSort fun a b => a.1 ≤ b.1).map (·.2) =
      made.map .ok := by
  have hsort : (ls.mergeSort fun a b => a.id ≤ b.id).map (fun l => (l.id, (.ok l : Words Line))) =
      (ls.map fun l => (l.id, (.ok l : Words Line))).mergeSort fun a b => a.1 ≤ b.1 :=
    List.map_mergeSort fun _ _ _ _ => rfl
  rw [← hsort, mergeSort_of_perm h ha, List.map_map]
  rfl

/-- **New lines are put in the order of their numbers again**, however they come back. -/
theorem outcome_createLines {ids : List Int} (hids : ids.Pairwise (· < ·)) (h : Inserts replies ids)
    (offer request : Int) {ds : List LineDraft} (hlen : ids.length = ds.length) (now : Instant) :
    outcome replies (createLines offer request ds now) =
      .ok (List.zipWith (fun id d => d.toLine id offer request now) ids ds) := by
  cases ds with
  | nil => rw [List.zipWith_nil_right]; rfl
  | cons d ds =>
    obtain ⟨ls, hperm, hreply⟩ := h.lines offer request hlen now
    have hascending : (List.zipWith (fun id d => LineDraft.toLine d id offer request now) ids
        (d :: ds)).Pairwise (·.id < ·.id) := by
      rw [← List.pairwise_map (f := Line.id), ids_zipWith hlen]
      exact hids
    have hcreate : createLines offer request (d :: ds) now = (plainly (do
        let rows ← fetchAll (createLinesQuery offer request (d :: ds) now)
        let lines ← ofDatabase (rows.mapM readLine)
        return (rows.map fun row => (intAt? row "id").getD 0).zip lines) >>= fun rows =>
          lookUpAll ((rows.mergeSort fun a b => a.1 ≤ b.1).map (·.2))) := rfl
    rw [hcreate, outcome_bind, passes_plainly _ _ (outcome_numberedLines hreply)]
    change outcome replies (lookUpAll _) = _
    rw [sort_numberedLines hperm hascending]
    exact outcome_lookUpAll _

/-- **A script comes to what its call makes.** -/
theorem outcome_made {c : Call} {ids : List Int} {a : c.Answer} (ha : c.made ids = some a)
    (hids : ids.Pairwise (· < ·)) (h : Inserts replies ids) : outcome replies (script c) = .ok a := by
  cases c with
  | createLines offer request ds now =>
    rw [Call.made] at ha
    split at ha
    · rw [← Option.some.inj ha]
      exact outcome_createLines hids h offer request ‹_› now
    · cases ha
  | createRequest d now =>
    match ids, ha, h with
    | [id], ha, h =>
      rw [← Option.some.inj ha]
      exact outcome_oneOf passes_plainly (h.one (writes_request id now d)) (readRequest_requestRow _)
  | createOffer d now =>
    match ids, ha, h with
    | [id], ha, h =>
      rw [← Option.some.inj ha]
      exact outcome_oneOf (passes_about _ _) (h.one (writes_offer id now d)) (readOffer_offerRow _)
  | createContract d now =>
    match ids, ha, h with
    | [id], ha, h =>
      have hread := outcome_plainOf (h.one (writes_contract id now d)) (readContract_contractRow _)
      rw [← Option.some.inj ha]
      exact passes_about _ _ _ _ hread
  | createSheet request by_ terms now =>
    match ids, ha, h with
    | [id], ha, h =>
      rw [← Option.some.inj ha]
      exact outcome_numbered (passes_about _ _) (h.one ⟨_, _, rfl, rfl, rfl⟩) fun id =>
        (⟨id, request, by_, terms, now⟩ : Sheet)
  | createCeiling rate affectedFrom now =>
    match ids, ha, h with
    | [id], ha, h =>
      rw [← Option.some.inj ha]
      exact outcome_numbered passes_plainly (h.one ⟨_, _, rfl, rfl, rfl⟩) fun id =>
        (⟨id, rate, affectedFrom, now⟩ : Ceiling)
  | createJob e now =>
    match ids, ha, h with
    | [id], ha, h =>
      rw [← Option.some.inj ha]
      exact outcome_oneOf passes_plainly (h.one (writes_job id now e)) (readJob_jobRow _)
  | _ => cases ha

/-- **What is read back from an insertion is what a store gives.**  Where a creating call succeeds in
a store, its script comes to the same on a server that carries out its insertion under the same
numbers, in whichever order it gives the rows back: the same request, offer, contract, sheet, ceiling
or record, or the same lines in the same order, however many. A flow that is not specified goes there
and back as nothing. Under other numbers that ascend, and are as many, the script comes to what the
call makes under these. -/
theorem creation_matches {s t : Store} {tx : TxId} (hk : (s.view tx).Keyed) {c : Call}
    (hc : c.Creates) {a : c.Answer} (hp : s.perform tx c = (.ok a, t)) :
    (∀ replies, Inserts replies ((c.created a).map Prod.snd) → outcome replies (script c) = .ok a) ∧
    ∀ ids : List Int, ids.Pairwise (· < ·) → ids.length = (c.created a).length →
      ∃ x, c.made ids = some x ∧
        ∀ replies, Inserts replies ids → outcome replies (script c) = .ok x := by
  obtain ⟨hbook, -⟩ := Store.perform_ok hk hp
  have hmade := Book.made_created hc hbook
  obtain ⟨-, hnumbers, -⟩ := Book.grows_perform hbook
  refine ⟨fun replies h => outcome_made hmade ?_ h, fun ids hids hlen => ?_⟩
  · rw [hnumbers]
    exact ascending_numbersAfter _ _
  · have hlen' : ids.length = ((c.created a).map Prod.snd).length := by rw [hlen, List.length_map]
    obtain ⟨x, hx⟩ := Call.exists_made hmade hlen'
    exact ⟨x, hx, fun replies h => outcome_made hx hids h⟩

namespace Story

open LoanDesk.Story

/-- A server that gives rows back in the reverse of the order in which it makes them. -/
def reversing (ids : List Int) : Replies := fun q =>
  match q.statement with
  | .insert s => .ok (.rows
      ((ids.zip (s.tuples q.params)).reverse.map fun x => s.newRow x.1 x.2))
  | _ => .ok (.rows [])

/-- The server inserts what it is asked to. -/
theorem inserts_reversing (ids : List Int) : Inserts (reversing ids) ids := fun _ _ _ =>
  ⟨_, List.reverse_perm _, rfl⟩

/-- Two lines, of which the second names a score group. -/
def tenders : List LineDraft := [tender, { tender with loan := 11, scoreGroup := some 5 }]

/-- The lines come back in the order 3, 2 and are put in the order 2, 3, as the store has them. -/
theorem creation_matches_reversed :
    (locked.perform 2 (.createLines 9 1 tenders noon)).1 =
      .ok (LineDraft.toLines 9 1 noon 2 tenders) ∧
    (LineDraft.toLines 9 1 noon 2 tenders).map Line.id = [2, 3] ∧
    outcome (reversing [2, 3]) (script (.createLines 9 1 tenders noon)) =
      .ok (LineDraft.toLines 9 1 noon 2 tenders) := by
  have hls : (locked.perform 2 (.createLines 9 1 tenders noon)).1 =
      .ok (LineDraft.toLines 9 1 noon 2 tenders) := by rfl
  have hp : locked.perform 2 (.createLines 9 1 tenders noon) =
      (.ok (LineDraft.toLines 9 1 noon 2 tenders), _) := Prod.ext hls rfl
  have hmatches := (creation_matches (reached_locked.keyed 2) (c := .createLines 9 1 tenders noon)
    trivial hp).1 (reversing [2, 3])
  exact ⟨hls, rfl, hmatches (inserts_reversing [2, 3])⟩

end Story

end Sql
end LoanDesk
