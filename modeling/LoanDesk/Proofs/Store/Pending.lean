/-
# Open lines

Lines are cancelled in bulk: a call selects lines, and those of them that are open are cancelled and
counted (`Rows.pendingLines`). Where several such calls follow each other in one transaction, a later
one finds open what the earlier ones have left (`pendingLines_cancel`), and together they cancel what
one call for all of the lines would (`cancel_cancel`). So the counts of one after another add up, and
no line is counted twice.
-/

import LoanDesk.Proofs.Store.Book

namespace LoanDesk

/-- A selection of items that were changed, where those that are selected are as they were. -/
theorem filter_map_of_kept {α : Type} {f : α → α} {p q : α → Bool} (hsel : ∀ a, p (f a) = q a)
    (hkept : ∀ a, q a → f a = a) (as : List α) : (as.map f).filter p = as.filter q := by
  have hid : ∀ a ∈ as.filter q, f a = id a := fun a ha => hkept a (List.mem_filter.1 ha).2
  calc (as.map f).filter p
      = (as.filter q).map f := by
        rw [List.filter_map]
        exact congrArg _ (List.filter_congr fun a _ => hsel a)
    _ = as.filter q := by rw [List.map_congr_left hid, List.map_id]

namespace Rows

variable {rows : Rows} {by_ : String} {reason : CancelReason} {now : Instant}

/-- The open lines that are selected, by number. -/
def pendingLines (rows : Rows) (p : Line → Bool) : List Line :=
  rows.lines.values.filter fun l => l.isPending && p l

/-- The open lines that are selected are stored, open and selected. -/
theorem mem_pendingLines {p : Line → Bool} {l : Line} :
    l ∈ rows.pendingLines p ↔ (∃ i, rows.lines.get? i = some l) ∧ l.isPending ∧ p l := by
  rw [pendingLines, List.mem_filter, Table.mem_values, Bool.and_eq_true]

/-- Only which of the open lines are selected matters. -/
theorem pendingLines_congr {p p' : Line → Bool}
    (h : ∀ i l, rows.lines.get? i = some l → l.isPending → p l = p' l) :
    rows.pendingLines p = rows.pendingLines p' := by
  refine List.filter_congr fun l hl => ?_
  obtain ⟨i, hi⟩ := Table.mem_values.1 hl
  cases hp : l.isPending with
  | false => rfl
  | true => rw [h i l hi hp]

/-- A selection of the selected lines selects by both. -/
theorem pendingLines_filter (p q : Line → Bool) :
    (rows.pendingLines p).filter q = rows.pendingLines fun l => p l && q l := by
  rw [pendingLines, List.filter_filter]
  refine List.filter_congr fun l _ => ?_
  rw [Bool.and_comm, Bool.and_assoc]

/-- Where the lines that are selected are not open afterwards and the others stay as they are, the
open lines are those that were not selected. -/
theorem pendingLines_mapLines {f : Line → Line} {q : Line → Bool}
    (hq : ∀ l, l.isPending → q l → (f l).isPending = false)
    (hf : ∀ l, l.isPending → q l = false → f l = l)
    (hn : ∀ l, l.isPending = false → (f l).isPending = false) (p : Line → Bool) :
    pendingLines { rows with lines := rows.lines.map f } p =
      rows.pendingLines fun l => !q l && p l := by
  rw [pendingLines, Table.values_map]
  refine filter_map_of_kept (fun l => ?_) (fun l hl => ?_) _
  · dsimp only
    cases hl : l.isPending with
    | false => rw [hn l hl, Bool.false_and, Bool.false_and]
    | true =>
      cases hsel : q l with
      | true => simp [hq l hl hsel]
      | false => simp [hf l hl hsel, hl]
  · obtain ⟨hp, hl⟩ := Bool.and_eq_true_iff.1 hl
    exact hf l hp (by simpa using (Bool.and_eq_true_iff.1 hl).1)

/-- The lines that are left open when some are cancelled. -/
theorem pendingLines_cancel (q p : Line → Bool) :
    (rows.cancel q by_ reason now).pendingLines p = rows.pendingLines fun l => !q l && p l := by
  refine pendingLines_mapLines (fun l hl hq => ?_) (fun l _ hq => ?_) (fun l hl => ?_) p
  · rw [if_pos (by rw [hl, hq]; rfl)]
    rfl
  · rw [if_neg (by simp [hq])]
  · rw [if_neg (by simp [hl]), hl]

/-- The lines that are left open when some have moved on. -/
theorem pendingLines_setLines {status : LineStatus} (hs : status ≠ .pending) (q p : Line → Bool) :
    (rows.setLines q status now).pendingLines p = rows.pendingLines fun l => !q l && p l := by
  have hmoved : ∀ l : Line, (l.withStatus status now).isPending = false :=
    fun l => beq_eq_false_iff_ne.2 hs
  refine pendingLines_mapLines (fun l _ hq => ?_) (fun l _ hq => ?_) (fun l hl => ?_) p
  · rw [if_pos hq, hmoved]
  · rw [if_neg (by simp [hq])]
  · split
    · exact hmoved l
    · exact hl

/-- Only open lines matter to what is cancelled. -/
theorem cancel_congr (rows : Rows) {p p' : Line → Bool}
    (h : ∀ i l, rows.lines.get? i = some l → l.isPending → p l = p' l) (by_ : String)
    (reason : CancelReason) (now : Instant) :
    rows.cancel p by_ reason now = rows.cancel p' by_ reason now := by
  refine congrArg (fun t => { rows with lines := t }) (Table.map_congr fun i l hl => ?_)
  cases hp : l.isPending with
  | false => rfl
  | true => rw [h i l hl hp]

/-- A line that is cancelled as one of two selections, one after the other. -/
theorem cancelled_twice (by_ : String) (reason : CancelReason) (now : Instant) (p q : Line → Bool)
    (l : Line) :
    (let l' := if l.isPending && p l then l.cancelled by_ reason now else l
    if l'.isPending && q l' then l'.cancelled by_ reason now else l') =
      if l.isPending && (p l || q l) then l.cancelled by_ reason now else l := by
  dsimp only
  cases hl : l.isPending && p l with
  | true =>
    obtain ⟨hpend, hp⟩ := Bool.and_eq_true_iff.1 hl
    rw [if_pos rfl, if_neg (by simp [Line.cancelled, Line.isPending]), hpend, hp]
    rfl
  | false => rw [if_neg Bool.false_ne_true, Bool.and_or_distrib_left, hl, Bool.false_or]

/-- Lines that are cancelled one selection after the other. -/
theorem cancel_cancel (p q : Line → Bool) :
    (rows.cancel p by_ reason now).cancel q by_ reason now =
      rows.cancel (fun l => p l || q l) by_ reason now := by
  refine congrArg (fun t => { rows with lines := t }) ?_
  rw [cancel, Table.map_map]
  exact Table.map_congr fun _ l _ => cancelled_twice by_ reason now p q l

/-- Nothing is cancelled where no line that is selected is open. -/
theorem cancel_of_pendingLines {p : Line → Bool} (h : rows.pendingLines p = []) :
    rows.cancel p by_ reason now = rows := by
  have hnone : rows.lines.map (fun l => if l.isPending && p l then l.cancelled by_ reason now else l) =
      rows.lines.map id := by
    refine Table.map_congr fun i l hl => if_neg fun hp => ?_
    have hmem := mem_pendingLines.2 ⟨⟨i, hl⟩, Bool.and_eq_true_iff.1 hp⟩
    rw [h] at hmem
    cases hmem
  rw [cancel, hnone, Table.map_id]

/-- Requests that get a status one selection after the other. -/
theorem setRequests_setRequests (p q : Request → Bool) (status : RequestStatus) :
    (rows.setRequests p status now).setRequests q status now =
      rows.setRequests (fun r => p r || q r) status now := by
  have hrequests : ∀ r : Request,
      ((fun r : Request => if q r then { r with status, updatedAt := now } else r) ∘
        fun r => if p r then { r with status, updatedAt := now } else r) r =
          if p r || q r then { r with status, updatedAt := now } else r := by
    intro r
    dsimp only [Function.comp_apply]
    cases p r with
    | true => exact ite_self _
    | false => rfl
  refine congrArg (fun t => { rows with requests := t }) ?_
  rw [setRequests, Table.map_map]
  exact Table.map_congr fun _ r _ => hrequests r

end Rows

namespace Book

variable {free : RowKey → Bool} {b : Book} {p p' : Line → Bool} {by_ : String}
  {reason : CancelReason} {now : Instant}

/-- The first open line that is selected and that somebody else holds. -/
def held? (b : Book) (free : RowKey → Bool) (p : Line → Bool) : Option Line :=
  (b.rows.pendingLines p).find? fun l => !free (.line l.id)

/-- The open lines that are selected are cancelled and counted, unless somebody holds one of them; the
first that is held is named. -/
theorem cancelWhere_eq : b.cancelWhere free p by_ reason now =
    match b.held? free p with
    | some l => .error (.locked "offer interest" l.id)
    | none => .ok ((b.rows.pendingLines p).length,
        { b with rows := b.rows.cancel p by_ reason now }) := by
  have hfind : ((b.rows.pendingLines p).map (·.id)).find? (fun id => !free (.line id)) =
      (b.held? free p).map (·.id) := List.find?_map
  change (demandEach free .line "offer interest" ((b.rows.pendingLines p).map (·.id)) >>= fun _ =>
    Except.ok ((b.rows.pendingLines p).length,
      { b with rows := b.rows.cancel p by_ reason now })) = _
  rw [demandEach, hfind]
  cases b.held? free p <;> rfl

/-- A cancellation fails at the first line that somebody else holds. -/
theorem cancelWhere_held {l : Line} (h : b.held? free p = some l) :
    b.cancelWhere free p by_ reason now = .error (.locked "offer interest" l.id) := by
  rw [cancelWhere_eq, h]

/-- A cancellation of lines that are all free cancels and counts them. -/
theorem cancelWhere_free (h : b.held? free p = none) : b.cancelWhere free p by_ reason now =
    .ok ((b.rows.pendingLines p).length, { b with rows := b.rows.cancel p by_ reason now }) := by
  rw [cancelWhere_eq, h]

/-- Only open lines matter to what is cancelled. -/
theorem cancelWhere_congr (h : ∀ i l, b.rows.lines.get? i = some l → l.isPending → p l = p' l) :
    b.cancelWhere free p by_ reason now = b.cancelWhere free p' by_ reason now := by
  rw [cancelWhere_eq, cancelWhere_eq, held?, held?, Rows.pendingLines_congr h,
    Rows.cancel_congr _ h]

end Book
end LoanDesk
