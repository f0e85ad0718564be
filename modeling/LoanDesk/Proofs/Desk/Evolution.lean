/-
# What becomes of a row

The calls that set statuses look at no table, and yet rows go on only as `Rows.Evolves` has it: every
deed has it (`Deed.evolves`), and so has any stretch of a history in which one task is at work
(`History.rows_evolve`). Where a line is taken, what becomes of it and of the others is
`Desk.Held.settle`. A task that deletes a request adds no row, so what is gone is not there again at
the end of the task.
-/

import LoanDesk.Proofs.Desk.Evolution.Rows

namespace LoanDesk

open LineStatus (canMove)

/-! ### Deeds -/

/-- The lines of a batch are numbered upwards from its first number. -/
theorem LineDraft.le_id_of_mem_toLines {offer request : Int} {now : Instant} (ds : List LineDraft)
    (n : Int) : ∀ l ∈ toLines offer request now n ds, n ≤ l.id := by
  intro l hl
  obtain ⟨d, -, id, hid, rfl⟩ := of_mem_toLines ds n hl
  exact hid

/-- The offer of every line is there and has a flow. -/
theorem Book.Linked.offer_of_line {rows : Rows} {last : Int} (h : Linked ⟨rows, last⟩) {i : Int}
    {l : Line} (hl : rows.lines.get? i = some l) :
    ∃ o, rows.offers.get? l.offer = some o ∧ o.flow ≠ .unspecified := by
  obtain ⟨o, ho, -⟩ := h.line i l hl
  exact ⟨o, ho, h.flow _ o ho⟩

/-- The line after its request went to another: cancelled if it is pending and selected. -/
def Line.passedOver (p : Line → Bool) (by_ : String) (now : Instant) (l : Line) : Line :=
  if l.isPending && p l then l.cancelled by_ .alternativeOption now else l

/-- A line that is passed over is still of its request. -/
theorem Line.passedOver_request (p : Line → Bool) (by_ : String) (now : Instant) (l : Line) :
    (l.passedOver p by_ now).request = l.request := by
  unfold passedOver
  split <;> rfl

/-- Lines that are not selected stay as they are. -/
theorem Line.passedOver_of_not {p : Line → Bool} {by_ : String} {now : Instant} {l : Line}
    (h : p l = false) : l.passedOver p by_ now = l := by
  unfold passedOver
  rw [h, Bool.and_false]
  rfl

/-- Accepted lines stay as they are. -/
theorem Line.passedOver_of_isAccepted {p : Line → Bool} {by_ : String} {now : Instant} {l : Line}
    (h : l.status.isAccepted) : l.passedOver p by_ now = l := by
  refine if_neg fun hp => ?_
  rw [Line.not_accepted_of_isPending (Bool.and_eq_true_iff.1 hp).1] at h
  cases h

namespace Rows

variable {t : Task} {rows : Rows} {last : Int}

/-- Taking a line marks it, passes over the others of its offer, and then the others of its request.
-/
theorem lines_take (rows : Rows) (x : Desk.Held) (status : LineStatus) (by_ : String)
    (now : Instant) : (rows.take x status by_ now).lines =
      ((rows.lines.map fun l => if [x.line.id].contains l.id then l.withStatus status now else l).map
        (Line.passedOver (·.offer == x.offer.id) by_ now)).map
          (Line.passedOver (fun l => [x.request.id].contains l.request) by_ now) := rfl

/-- Requests go on when some of them are confirmed. -/
theorem Evolves.confirm (rows : Rows) (p : Request → Bool) (now : Instant) (gone : Request → Prop) :
    rows.requests.Evolves t.Adds Request.Continues gone
      (rows.setRequests p .confirmed now).requests :=
  .map fun _ r _ => Request.Continues.confirm p now r

/-- Lines go on when some of them are cancelled. -/
theorem Evolves.cancel (hb : Book.Linked ⟨rows, last⟩) (p : Line → Bool) (by_ : String)
    (reason : CancelReason) (now : Instant) (gone : Line → Prop) :
    rows.lines.Evolves t.Adds (Line.MovesTo rows.offers) gone
      (rows.cancel p by_ reason now).lines :=
  .map fun _ _ hl => Line.MovesTo.cancel (hb.offer_of_line hl) p by_ reason now

/-- Rows go on when requests are closed with their lines. -/
theorem Evolves.shut (hb : Book.Linked ⟨rows, last⟩) (ids : List Int) (by_ : String)
    (reason : CancelReason) (now : Instant) : rows.Evolves t (rows.shut ids by_ reason now) :=
  .of_lines (Evolves.confirm rows (fun r => ids.contains r.id) now)
    (Evolves.cancel hb (fun l => ids.contains l.request) by_ reason now) rfl rfl rfl rfl

/-- A line takes a new status, then the others move on by `g`, and the first is finished by `e`. -/
theorem movesTo_marked (hb : Book.Linked ⟨rows, last⟩) {x : Desk.Held} (hx : x.In rows)
    {status : LineStatus} (hs : status.isAccepted) {g e : Line → Line}
    (hg : ∀ l, l.status.isAccepted → g l = l)
    (hmove : ∀ l : Line, (∃ o, rows.offers.get? l.offer = some o ∧ o.flow ≠ .unspecified) →
      l.MovesTo rows.offers (g l))
    (he : ∀ l, l.id ≠ x.line.id → e l = l) {now : Instant}
    (hfinish : x.line.MovesTo rows.offers (e (x.line.withStatus status now))) {i : Int} {l : Line}
    (hl : rows.lines.get? i = some l) : l.MovesTo rows.offers
      (e (g (if [x.line.id].contains l.id then l.withStatus status now else l))) := by
  have hkey : l.id = i := hb.keyed.lines i l hl
  by_cases hi : l.id = x.line.id
  · rw [← hkey, hi, hx.line] at hl
    obtain rfl := Option.some.inj hl
    rw [if_pos (by simp), hg _ hs]
    exact hfinish
  · have hgl := hmove l (hb.offer_of_line hl)
    rw [if_neg (by simpa using hi), he (g l) (by rw [hgl.same]; exact hi)]
    exact hgl

/-- What becomes of the rows when a line is taken and then finished by `e`. -/
theorem Evolves.take (hb : Book.Linked ⟨rows, last⟩) {x : Desk.Held} (hx : x.In rows)
    {status : LineStatus} (hs : status.isAccepted) {e : Line → Line}
    (he : ∀ l, l.id ≠ x.line.id → e l = l) {now : Instant}
    (hfinish : x.line.MovesTo rows.offers (e (x.line.withStatus status now))) (by_ : String) :
    rows.Evolves t { rows.take x status by_ now with
      lines := (rows.take x status by_ now).lines.map e } := by
  refine .of_lines (Evolves.confirm rows (·.id == x.request.id) now) (fun gone => ?_) rfl rfl rfl rfl
  rw [lines_take, Table.map_map, Table.map_map, Table.map_map]
  refine .map fun i l hl => movesTo_marked (g := fun l =>
    (l.passedOver (·.offer == x.offer.id) by_ now).passedOver
      (fun l => [x.request.id].contains l.request) by_ now)
    hb hx hs (fun l ha => ?_) (fun l ho => ?_) he hfinish hl
  · rw [Line.passedOver_of_isAccepted ha, Line.passedOver_of_isAccepted ha]
  · have hfirst : l.MovesTo rows.offers (l.passedOver (·.offer == x.offer.id) by_ now) :=
      .cancel ho (·.offer == x.offer.id) by_ .alternativeOption now
    rw [← hfirst.offer_eq] at ho
    exact hfirst.trans
      (.cancel ho (fun l => [x.request.id].contains l.request) by_ .alternativeOption now)

end Rows

/-! ### The line that is taken and the others -/

/-- What becomes of a line when another one, or itself, is taken. -/
def Desk.Held.settle (h : Desk.Held) (status : LineStatus) (by_ : String) (now : Instant)
    (l : Line) : Line :=
  ((if [h.line.id].contains l.id then l.withStatus status now else l).passedOver
    (·.offer == h.offer.id) by_ now).passedOver (fun l => [h.request.id].contains l.request) by_ now

namespace Line

/-- A line whose status is another one is not pending. -/
theorem not_isPending_of_status {l : Line} {status : LineStatus} (h : l.status = status)
    (hs : status ≠ .pending) : l.isPending = false := by
  simp [isPending, h, hs]

end Line

namespace Desk.Held

variable {h : Held} {t : LineStatus} {b : String} {n : Instant} {l : Line}

/-- A line that is taken is marked. -/
theorem settle_self (hs : t.isAccepted) (hl : l.id = h.line.id) :
    h.settle t b n l = l.withStatus t n := by
  unfold settle
  have hmarked : (l.withStatus t n).status.isAccepted := hs
  rw [if_pos (by simp [hl]), Line.passedOver_of_isAccepted hmarked,
    Line.passedOver_of_isAccepted hmarked]

/-- Any other line is cancelled if it is open and of the same offer or request. -/
theorem settle_eq (hl : l.id ≠ h.line.id) : h.settle t b n l =
    if l.isPending ∧ (l.offer = h.offer.id ∨ l.request = h.request.id) then
      l.cancelled b .alternativeOption n
    else l := by
  have hboth := Rows.cancelled_twice b .alternativeOption n (·.offer == h.offer.id)
    (fun l => [h.request.id].contains l.request) l
  unfold settle
  rw [if_neg (by simpa using hl)]
  refine hboth.trans ?_
  simp only [List.contains_cons, List.contains_nil, Bool.or_false, Bool.and_eq_true, Bool.or_eq_true,
    beq_iff_eq]

/-- Any other line stays as it is, or is open, of the same offer or request, and cancelled. -/
theorem settle_other (hl : l.id ≠ h.line.id) : h.settle t b n l = l ∨
    l.isPending ∧ (l.offer = h.offer.id ∨ l.request = h.request.id) ∧
      h.settle t b n l = l.cancelled b .alternativeOption n := by
  rw [settle_eq hl]
  split
  · rename_i hcancel
    exact Or.inr ⟨hcancel.1, hcancel.2, rfl⟩
  · exact Or.inl rfl

/-- A line keeps its place and its contract when lines are taken or cancelled. -/
theorem settle_place : (h.settle t b n l).id = l.id ∧ (h.settle t b n l).offer = l.offer ∧
    (h.settle t b n l).request = l.request ∧ (h.settle t b n l).contract = l.contract := by
  have hpass : ∀ (p : Line → Bool) (l : Line), (l.passedOver p b n).id = l.id ∧
      (l.passedOver p b n).offer = l.offer ∧ (l.passedOver p b n).request = l.request ∧
        (l.passedOver p b n).contract = l.contract := by
    intro p l
    unfold Line.passedOver
    split <;> exact ⟨rfl, rfl, rfl, rfl⟩
  unfold settle
  simp only [hpass]
  split <;> exact ⟨rfl, rfl, rfl, rfl⟩

end Desk.Held

/-- Taking a line changes every line at once, as it settles the matter, and confirms the request. -/
theorem Rows.take_eq (rows : Rows) (h : Desk.Held) (status : LineStatus) (by_ : String)
    (now : Instant) : rows.take h status by_ now = { rows with
      lines := rows.lines.map (h.settle status by_ now)
      requests := rows.requests.map fun r =>
        if r.id == h.request.id then
          { r with status := .confirmed, updatedAt := now }
        else r } := by
  have hlines := rows.lines_take h status by_ now
  rw [Table.map_map, Table.map_map] at hlines
  have hsplit : rows.take h status by_ now = { rows.take h status by_ now with
      lines := (rows.take h status by_ now).lines } := rfl
  rw [hsplit, hlines]
  rfl

/-! ### What deeds make of rows -/

/-- **Deeds change rows as rows may change.** -/
theorem Deed.evolves {t : Task} {b b' : Book} (hd : Deed t b b') (hb : b.Linked) :
    b.rows.Evolves t b'.rows := by
  have hsame : ∀ gone, b.rows.requests.Evolves t.Adds Request.Continues gone b.rows.requests :=
    fun _ => .refl Request.Continues.refl
  have hattach : ∀ (x : Desk.Held) (n : Int) (now : Instant) (l : Line), l.id ≠ x.line.id →
      (if l.id == x.line.id then l.withContract n now else l) = l := by
    intro x n now l hne
    exact if_neg (by simpa using hne)
  have hsigned : ∀ (x : Desk.Held) (n : Int) (now : Instant), x.In b.rows →
      canMove x.offer.flow x.line.status .packageCreated → x.line.MovesTo b.rows.offers
        (if (x.line.withStatus .packageCreated now).id == x.line.id then
          (x.line.withStatus .packageCreated now).withContract n now
        else x.line.withStatus .packageCreated now) := by
    intro x n now hx hm
    rw [if_pos (by simp [Line.withStatus])]
    exact .sign hx.offer hm n now
  cases hd with
  | openRequest hs hn hlast =>
    exact .of_lines
      (fun _ => .insert Request.Continues.refl hb.requests (Task.adds_operate (by simp)) hn _)
      (fun _ => .refl (Line.MovesTo.refl _)) rfl rfl rfl rfl
  | @deleteRequest caller now _ r _ hr hp hl hlast =>
    have hgone : (b.rows.removeRequest r.id).requests.get? r.id = none := by
      change (b.rows.requests.filter _).get? r.id = none
      rw [Table.get?_filter, hr]
      simp
    have hremoves : ∀ id, (id != r.id) = false →
        Task.Removes (.operate (.deleteRequest r.id) caller now) b.rows.requests
          (b.rows.removeRequest r.id).requests id := by
      intro id hid
      obtain rfl : id = r.id := by simpa using hid
      exact ⟨⟨caller, now, rfl⟩, ⟨r, hr, hp⟩, hgone⟩
    exact { Rows.Evolves.refl _ b.rows with
      requests := .filter Request.Continues.refl fun _ (a : Request) _ => hremoves a.id
      offers := .filter (fun _ => rfl) fun _ (a : Offer) _ => hremoves a.request
      lines := .filter (Line.MovesTo.refl _) fun _ (a : Line) _ => hremoves a.request
      sheets := .filter (fun _ => rfl) fun _ (a : Sheet) _ => hremoves a.request }
  | @propose c caller now _ r sheet offer lines last hc hr hp hs ho hl hlast =>
    have hadds : (Task.operate (.propose c) caller now).Adds := Task.adds_operate (by simp)
    have hoffer : b.last < offer := by omega
    rw [Store.foldl_putLine]
    exact { Rows.Evolves.refl _ b.rows with
      offers := .insert (fun _ => rfl) hb.offers hadds hoffer _
      lines := .foldl_insert (Line.MovesTo.refl _) hb.lines hadds fun l hl' => by
        have := LineDraft.le_id_of_mem_toLines _ _ l hl'
        omega
      sheets := .insert (fun _ => rfl) hb.sheets hadds hs _ }
  | @confirm c caller now _ x n last hx hc hp hm hk hn hlast =>
    have htaken := Rows.Evolves.take (t := .operate (.confirm c) caller now) hb hx rfl
      (hattach x n now) (hsigned x n now hx hm) caller.name
    exact ⟨htaken.requests, htaken.offers, htaken.lines, htaken.sheets, htaken.ceilings, htaken.jobs⟩
  | @accept caller now _ x last hx hs ho hxp hp hm hlast =>
    have htaken := Rows.Evolves.take (t := .operate (.accept ⟨x.offer.id, x.line.id⟩) caller now)
      (e := id) hb hx rfl (fun _ _ => rfl) (.mark hx.offer hm now) caller.name
    rw [Table.map_id] at htaken
    exact htaken
  | @createPackage caller now _ x n last hx hm hk hn hlast =>
    refine .of_lines hsame (fun gone => ?_) rfl rfl rfl rfl
    have hlines : b.rows.lines.Evolves (Task.Adds (.operate (.createPackage x.line.id) caller now))
        (Line.MovesTo b.rows.offers) gone (b.rows.lines.map ((fun l =>
          if l.id == x.line.id then l.withContract n now else l) ∘ fun l =>
            if [x.line.id].contains l.id then l.withStatus .packageCreated now else l)) :=
      .map fun i l hl => Rows.movesTo_marked (g := id) hb hx rfl (fun _ _ => rfl)
        (fun l _ => .refl _ l) (hattach x n now) (hsigned x n now hx hm) hl
    rw [← Table.map_map] at hlines
    exact hlines
  | setGuaranteeEnd hk hat hlast =>
    exact .of_lines hsame (fun _ => .refl (Line.MovesTo.refl _)) rfl rfl rfl rfl
  | cancel hr hids hlast => exact .of_lines hsame (Rows.Evolves.cancel hb _ _ _ _) rfl rfl rfl rfl
  | decline ho hr hs hlast => exact .of_lines hsame (Rows.Evolves.cancel hb _ _ _ _) rfl rfl rfl rfl
  | withdraw hrs hlast => exact .shut hb _ _ _ _
  | addCeiling hn hlast =>
    exact { Rows.Evolves.refl _ b.rows with
      ceilings := .insert (fun _ => rfl) hb.ceilings (Task.adds_operate (by simp)) hn _ }
  | expire hlast => exact .of_lines hsame (Rows.Evolves.cancel hb _ _ _ _) rfl rfl rfl rfl
  | declineBatch hrs hlast => exact .shut hb _ _ _ _
  | record ht hn hlast =>
    exact { Rows.Evolves.refl _ b.rows with
      jobs := .insert (fun _ => rfl) hb.jobs ht.adds hn _ }

/-! ### Histories -/

/-- A step of a task changes the rows as the task may. -/
theorem World.Step.evolves {w w' : World} (hs : w.Step w') (hw : w.Fit) {t : Task}
    (ht : ∀ k, w.work = some k → k.task = t) : w.store.rows.Evolves t w'.store.rows := by
  rcases (hs.effect World.invariant_linked hw).2 with hrows | ⟨k, hk, last, hb, hd⟩
  · rw [hrows]
    exact .refl t _
  · obtain rfl := ht k hk
    exact hd.evolves hb

namespace History

/-- **Rows change as they may in the course of any task.**  In a stretch of a history in which no
task but one is at work, be it a single step or the whole of the task or more, the rows at the end
have become what rows may become of those at any time before. -/
theorem rows_evolve {ws : List World} (h : History ws) {t : Task} {w : World} {vs : List World}
    (hs : w :: vs <:+: ws) (ht : ∀ v ∈ w :: vs, ∀ k, v.work = some k → k.task = t) :
    ∀ u ∈ w :: vs, u.store.rows.Evolves t w.store.rows := by
  induction vs generalizing w with
  | nil =>
    intro u hu
    obtain rfl := List.mem_singleton.1 hu
    exact .refl t _
  | cons v vs ih =>
    obtain ⟨hfit, hstep⟩ := h.step_of_infix hs
    have htail : v :: vs <:+: ws := (List.suffix_cons w (v :: vs)).isInfix.trans hs
    have hlast : v.store.rows.Evolves t w.store.rows :=
      hstep.evolves hfit (ht v (List.mem_cons_of_mem _ List.mem_cons_self))
    intro u hu
    rcases List.mem_cons.1 hu with rfl | hu
    · exact .refl t _
    · obtain ⟨us, -, hus⟩ := h.of_mem (hs.subset (List.mem_cons_of_mem _ hu))
      have hfirst := ih htail (fun x hx => ht x (List.mem_cons_of_mem _ hx)) u hu
      exact hfirst.trans hus.sound.1.part.stored hlast

end History

namespace Story

/-- Line 4 is accepted, line 5 goes with it and the request is confirmed, as rows may change. -/
theorem rows_evolve_accepted :
    let before := (World.played [proposed, opened]).1.rows
    let after := (World.played [accepted, proposed, opened]).1.rows
    (before.lines.get? 4).map (·.status) = some .pending ∧
      (before.lines.get? 5).map (·.status) = some .pending ∧
      (after.lines.get? 4).map (·.status) = some .creatingPackage ∧
      (after.lines.get? 5).map (·.status) = some .cancelled ∧
      (after.requests.get? 1).map (·.status) = some .confirmed ∧ before.Evolves accepted after := by
  have hstart : ⟨(World.played [proposed, opened]).1, none⟩ ∈
      World.turn accepted [proposed, opened] := World.mem_turn _ _
  exact ⟨by decide +kernel, by decide +kernel, by decide +kernel, by decide +kernel,
    by decide +kernel, History.rows_evolve (World.history_played _) (World.turn_infix _ _)
      World.task_of_mem_turn _ hstart⟩

end Story
end LoanDesk
