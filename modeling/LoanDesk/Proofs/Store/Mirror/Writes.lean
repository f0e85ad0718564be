/-
# Rows that are written one after another

Rows that a call writes one after another have all to be free, and then they all stand
(`Store.mirrors_writeEach`). So it is with lines that are cancelled, with rows whose status is set,
with new lines, and with what goes when a request is deleted. Of rows that are claimed those that are
not free are left out (`Store.mirrors_claim`).
-/

import LoanDesk.Proofs.Store.Mirror.Steps

namespace LoanDesk
namespace Store

variable {tx : TxId} {α β : Type}

/-! ### Rows written one after another -/

/-- Rows are written one after another. -/
def writeEach (write : α → Act Unit) : List α → Act Unit
  | [] => pure ()
  | a :: as => do write a; writeEach write as

/-- Lines are written one after another. -/
theorem writeLines_eq : ∀ ls : List Line, writeLines tx ls = writeEach (writeLine tx) ls
  | [] => rfl
  | l :: ls => by rw [writeLines, writeEach, writeLines_eq ls]

/-- The rows under given numbers are picked, changed and written one after another. -/
theorem changeEach_eq (write : α → Act Unit) (f : α → α) :
    ∀ (ids : List Int) (t : Table α), changeEach write f t ids =
      (writeEach write ((t.pick ids).map f) >>= fun _ => pure (t.pick ids).length)
  | [], _ => rfl
  | id :: ids, t => by
    rw [changeEach, Table.pick]
    cases h : t.get? id with
    | none => exact changeEach_eq write f ids t
    | some a => simp [changeEach_eq write f ids, writeEach]

/-- The first row is demanded before the others. -/
theorem demandEach_cons (free : RowKey → Bool) (key : Int → RowKey) (entity : String) (id : Int)
    (ids : List Int) : Book.demandEach free key entity (id :: ids) =
      (Book.demand free [key id] (.locked entity id) >>= fun _ =>
        Book.demandEach free key entity ids) := by
  unfold Book.demandEach Book.demand
  rw [List.find?_cons]
  cases hfree : free (key id) with
  | true => simp [hfree]; rfl
  | false => simp [hfree]; rfl

/-- Rows that are written one after another have to be free, and then they all stand. -/
theorem mirrors_writeEach {write : α → Act Unit} {key : α → Int} {lock : Int → RowKey}
    {entity : String} {put : Rows → α → Rows}
    (hw : ∀ a, Mirrors tx (write a) fun free b =>
      Book.demand free [lock (key a)] (.locked entity (key a)) >>= fun _ =>
        .ok ((), { b with rows := put b.rows a })) :
    ∀ as : List α, Mirrors tx (writeEach write as) fun free b =>
      Book.demandEach free lock entity (as.map key) >>= fun _ =>
        .ok ((), { b with rows := as.foldl put b.rows })
  | [] => mirrors_pure ()
  | a :: as => by
    refine ((hw a).bind fun _ => mirrors_writeEach hw as).congr fun free b _ => ?_
    rw [List.map_cons, demandEach_cons]
    cases Book.demand free [lock (key a)] (.locked entity (key a)) <;> rfl

/-- Lines that are stored one after another change the table of lines only. -/
theorem foldl_putLine (ls : List Line) (rows : Rows) : ls.foldl Rows.putLine rows =
    { rows with lines := ls.foldl (fun t l => t.insert l.id l) rows.lines } := by
  induction ls generalizing rows with
  | nil => rfl
  | cons l ls ih => rw [List.foldl_cons, ih]; rfl

/-- Requests that are stored one after another change the table of requests only. -/
theorem foldl_putRequest (rs : List Request) (rows : Rows) : rs.foldl Rows.putRequest rows =
    { rows with requests := rs.foldl (fun t r => t.insert r.id r) rows.requests } := by
  induction rs generalizing rows with
  | nil => rfl
  | cons r rs ih => rw [List.foldl_cons, ih]; rfl

/-- Writing lines is putting them into the book, up to the first that is not free. -/
theorem mirrors_writeLines (ls : List Line) : Mirrors tx (writeLines tx ls) fun free b =>
    Book.demandEach free .line "offer interest" (ls.map Line.id) >>= fun _ =>
      .ok ((), { b with rows := ls.foldl Rows.putLine b.rows }) := by
  rw [writeLines_eq]
  exact mirrors_writeEach mirrors_writeLine ls

/-- Cancelling the lines that are selected is cancelling them in the book. -/
theorem mirrors_cancelWhere (p : Line → Bool) (by_ : String) (reason : CancelReason)
    (now : Instant) : Mirrors tx (cancelWhere tx p by_ reason now) fun free b =>
      b.cancelWhere free p by_ reason now := by
  have hrest := fun ls : List Line =>
    (@mirrors_writeLines tx (ls.map fun l => l.cancelled by_ reason now)).bind fun _ =>
      mirrors_pure ls.length
  have h := (@checks_asks tx _ fun rows => rows.lines.values.filter fun l =>
    l.isPending && p l).bind hrest
  refine Mirrors.congr h fun free b hk => ?_
  have hmem : ∀ l, l ∈ (b.rows.lines.values.filter fun l => l.isPending && p l) ↔
      b.rows.lines.get? l.id = some l ∧ (l.isPending && p l) := fun l => by
    rw [List.mem_filter, hk.lines.mem_values]
  have hids : ∀ ls : List Line, (ls.map fun l => l.cancelled by_ reason now).map Line.id =
      ls.map Line.id := fun ls => by
    rw [List.map_map]
    rfl
  unfold Book.cancelWhere Rows.cancel
  have hrows := Table.foldl_insert hk.lines hmem
    (f := fun l => l.cancelled by_ reason now) fun _ => rfl
  rw [← hrows, ← foldl_putLine]
  change (Book.demandEach free .line "offer interest" (List.map Line.id _) >>= _) >>= _ =
    (Book.demandEach free .line "offer interest" (List.map Line.id _) >>= _)
  rw [hids]
  cases Book.demandEach free .line "offer interest" _ <;> rfl

/-- Rows under numbers are changed where they stand, if those that are there are free. -/
theorem mirrors_changeEach {write : α → Act Unit} {key : α → Int} {lock : Int → RowKey}
    {entity : String} {put : Rows → α → Rows} {table : Rows → Table α} {f : α → α}
    (hw : ∀ a, Mirrors tx (write a) fun free b =>
      Book.demand free [lock (key a)] (.locked entity (key a)) >>= fun _ =>
        .ok ((), { b with rows := put b.rows a }))
    (hf : ∀ a, key (f a) = key a) (ht : ∀ rows : Rows, rows.Keyed → (table rows).Keyed key)
    (ids : List Int) :
    Mirrors tx (asks (fun s => table (s.view tx)) >>= fun t => changeEach write f t ids)
      fun free b =>
        Book.demandEach free lock entity (ids.filter fun id => ((table b.rows).get? id).isSome) >>=
          fun _ => .ok (((table b.rows).values.filter fun a => ids.contains (key a)).length,
            { b with rows := (((table b.rows).pick ids).map f).foldl put b.rows }) := by
  have h : Mirrors tx (asks (fun s => table (s.view tx)) >>= fun t => changeEach write f t ids) _ :=
    (checks_asks table).bind fun t => by
      rw [changeEach_eq]
      exact (mirrors_writeEach hw ((t.pick ids).map f)).bind fun _ =>
        mirrors_pure (t.pick ids).length
  refine h.congr fun free b hk => ?_
  have hids : ((table b.rows).pick ids).map (key ∘ f) = ((table b.rows).pick ids).map key :=
    List.map_congr_left fun a _ => hf a
  have hdemand : Book.demandEach free lock entity (((table b.rows).pick ids).map key) =
      Book.demandEach free lock entity (ids.filter fun id => ((table b.rows).get? id).isSome) := by
    unfold Book.demandEach
    rw [(ht _ hk).find?_pick]
  change (Book.demandEach free lock entity (List.map key _) >>= _) >>= _ = _
  rw [List.map_map, hids, hdemand, (ht _ hk).length_pick]
  cases Book.demandEach free lock entity _ <;> rfl

/-! ### Claims, new lines and deletion -/

/-- The first so many, or all. -/
def upTo (limit : Option Int) (as : List α) : List α :=
  match limit with
  | some n => as.take n.toNat
  | none => as

/-- Of nothing nothing is taken. -/
theorem upTo_nil (limit : Option Int) : upTo limit ([] : List α) = [] := by
  cases limit <;> simp [upTo]

/-- Nothing is taken once the limit is reached. -/
theorem upTo_of_limit {limit : Option Int} (h : limit.any (· ≤ 0)) (as : List α) :
    upTo limit as = [] := by
  cases limit with
  | none => simp at h
  | some n =>
    simp only [Option.any_some, decide_eq_true_eq] at h
    simp [upTo, Int.toNat_of_nonpos h]

/-- Something is taken as long as the limit is not reached. -/
theorem upTo_cons {limit : Option Int} (h : ¬limit.any (· ≤ 0)) (a : α) (as : List α) :
    upTo limit (a :: as) = a :: upTo (limit.map (· - 1)) as := by
  cases limit with
  | none => rfl
  | some n =>
    have hn : n.toNat = (n - 1).toNat + 1 := by
      simp only [Option.any_some, decide_eq_true_eq] at h
      omega
    show (a :: as).take n.toNat = a :: as.take (n - 1).toNat
    rw [hn, List.take_succ_cons]

/-- Claiming requests is picking in the book those that are free, up to the limit. -/
theorem mirrors_claim : ∀ (rs : List Request) (limit : Option Int),
    Mirrors tx (claim tx limit rs) fun free b =>
      .ok (upTo limit (rs.filter fun r => free (.request r.id)), b)
  | [], limit => (mirrors_pure []).congr fun free b _ => by simp [upTo_nil]
  | r :: rs, limit => by
    by_cases hlimit : limit.any (· ≤ 0)
    · rw [claim_cons_of_limit hlimit]
      exact (mirrors_pure []).congr fun free b _ => by rw [upTo_of_limit hlimit]
    · intro s hk
      rw [claim_cons_apply hlimit]
      rcases tryLock_cases s tx [.request r.id] with ⟨hall, t, ht, hbook, hfree⟩ | ⟨hall, ht⟩
      · have hr : s.locks.isFree tx (.request r.id) = true := by simpa using hall
        have hkt : (t.view tx).Keyed := by
          change (t.book tx).rows.Keyed
          rw [hbook]
          exact hk
        have hrest := ((mirrors_claim rs (limit.map (· - 1))).bind fun ls =>
          mirrors_pure (r :: ls)) t hkt
        rw [ht]
        rw [hfree, hbook] at hrest
        dsimp only
        rw [List.filter_cons, if_pos hr, upTo_cons hlimit]
        exact hrest
      · have hr : s.locks.isFree tx (.request r.id) = false := by simpa using hall
        rw [ht]
        dsimp only
        rw [List.filter_cons, if_neg (by simp [hr])]
        exact mirrors_claim rs limit s hk

/-- Creating lines is adding them to the book. -/
theorem mirrors_createLines (offer req : Int) (now : Instant) : ∀ ds : List LineDraft,
    Mirrors tx (createLines tx offer req now ds) fun free b =>
      Book.addLines free offer req now ds b
  | [] => mirrors_pure []
  | d :: ds => by
    have h : Mirrors tx (createLines tx offer req now (d :: ds)) _ := mirrors_takeId.bind fun id =>
      (mirrors_writeLine (d.toLine id offer req now)).bind fun _ =>
        (mirrors_createLines offer req now ds).bind fun ls =>
          mirrors_pure (d.toLine id offer req now :: ls)
    refine h.congr fun free b _ => ?_
    rw [Book.addLines]
    change (Book.demand free [.line (b.last + 1)] (.locked "offer interest" (b.last + 1)) >>= _) >>=
      _ = Book.demand free [.line (b.last + 1)] (.locked "offer interest" (b.last + 1)) >>= _
    cases Book.demand free [.line (b.last + 1)] (.locked "offer interest" (b.last + 1)) with
    | error e => rfl
    | ok u =>
      change Book.addLines free offer req now ds _ >>= _ = Book.addLines free offer req now ds _ >>= _
      rfl

/-- Rows whose end is staged are erased from what is seen. -/
theorem foldl_overlay_none (ks : List Int) (t : Table α) (c : Table (Option α)) :
    t.overlay (ks.foldl (·.insert · none) c) = ks.foldl Table.erase (t.overlay c) := by
  induction ks generalizing c with
  | nil => rfl
  | cons k ks ih => rw [List.foldl_cons, List.foldl_cons, ih, Table.overlay_insert_none]

/-- The changes by which a request and all that belongs to it go. -/
def removal (id : Int) (view : Rows) (c : Changes) : Changes := { c with
  lines := ((view.lines.values.filter (·.request == id)).map Line.id).foldl (·.insert · none) c.lines
  offers :=
    ((view.offers.values.filter (·.request == id)).map Offer.id).foldl (·.insert · none) c.offers
  sheets :=
    ((view.sheets.values.filter (·.request == id)).map Sheet.id).foldl (·.insert · none) c.sheets
  requests := c.requests.insert id none }

/-- A deletion that is staged removes the request from what is seen, with all that belongs to it. -/
theorem overlay_removal {rows : Rows} {c : Changes} (h : (rows.overlay c).Keyed) (id : Int) :
    rows.overlay (removal id (rows.overlay c) c) = (rows.overlay c).removeRequest id := by
  have hrequests : rows.requests.overlay (removal id (rows.overlay c) c).requests =
      ((rows.overlay c).removeRequest id).requests := by
    change rows.requests.overlay (c.requests.insert id none) = _
    rw [Table.overlay_insert_none]
    exact h.requests.erase_eq_filter id
  have hlines : rows.lines.overlay (removal id (rows.overlay c) c).lines =
      ((rows.overlay c).removeRequest id).lines := by
    change rows.lines.overlay (List.foldl _ _ _) = _
    rw [foldl_overlay_none]
    exact Table.foldl_erase h.lines _
  have hoffers : rows.offers.overlay (removal id (rows.overlay c) c).offers =
      ((rows.overlay c).removeRequest id).offers := by
    change rows.offers.overlay (List.foldl _ _ _) = _
    rw [foldl_overlay_none]
    exact Table.foldl_erase h.offers _
  have hsheets : rows.sheets.overlay (removal id (rows.overlay c) c).sheets =
      ((rows.overlay c).removeRequest id).sheets := by
    change rows.sheets.overlay (List.foldl _ _ _) = _
    rw [foldl_overlay_none]
    exact Table.foldl_erase h.sheets _
  rw [Rows.overlay, hrequests, hlines, hoffers, hsheets]
  rfl

/-- Staging a deletion is removing the request from the book. -/
theorem mirrors_stageRemoval (id : Int) :
    Mirrors tx (asks (·.view tx) >>= fun view => stages tx (removal id view)) fun _ b =>
      .ok ((), ⟨b.rows.removeRequest id, b.last⟩) := by
  intro s hk
  refine ⟨rfl, ?_, rfl, hk.removeRequest id⟩
  change (s.stage tx (removal id (s.view tx))).book tx = _
  rw [book_stage, view, overlay_removal hk]
  rfl

/-- The last steps of a deletion: the lines of the request are locked, and what was seen goes. -/
theorem mirrors_remove (id : Int) :
    Mirrors tx (asks (·.view tx) >>= fun view =>
      lockOr tx (((view.lines.values.filter (·.request == id)).map (·.id)).map .line)
        (.locked "request" id) >>= fun _ => stages tx (removal id view)) fun free b =>
      Book.demand free ((b.rows.lines.values.filter (·.request == id)).map fun l => .line l.id)
        (.locked "request" id) >>= fun _ => .ok ((), ⟨b.rows.removeRequest id, b.last⟩) := by
  intro s hk
  have hkeys : ∀ ls : List Line, (ls.map (·.id)).map RowKey.line = ls.map fun l => .line l.id :=
    fun ls => List.map_map
  rw [bind_apply]
  change Agrees tx _ ((lockOr tx _ _ >>= fun _ => stages tx (removal id (s.view tx))) s) _
  rw [hkeys]
  refine agrees_lockOr fun t hbook hfree => ?_
  have hview : t.view tx = s.view tx := congrArg Book.rows hbook
  have hstage := mirrors_stageRemoval id t (by rw [hview]; exact hk)
  rw [hfree, hbook] at hstage
  rw [← hview]
  exact hstage

/-- Deleting a request is deleting it in the book. -/
theorem mirrors_deleteRequest (id : Int) : Mirrors tx (deleteRequest tx id) fun free b =>
    Book.perform free b (.deleteRequest id) :=
  (checks_request id).bind fun _ => (checks_lockOr [.request id] (.locked "request" id)).bind
    fun _ => mirrors_remove id

end Store
end LoanDesk
