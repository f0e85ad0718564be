/-
# Different requests do not meet

An investor accepts or declines an offer, an administrator cancels lines of a request or a request is
deleted: each of these is about one request (`Operation.AimsAt`), and is local to any part of the
rows that has this request. Two of them that are about different requests are local to two parts
that have nothing in common. So it does not matter which comes first: the same is stored after both,
and each gives what it gives alone, be it a result or an error (`History.independent`).
-/

import LoanDesk.Proofs.Race.Independence.Operations

namespace LoanDesk

namespace Operation

/-- The operation takes or cancels lines of this request, or deletes it. -/
def AimsAt (rows : Rows) (request : Int) : Operation → Prop
  | accept c => ∃ o, rows.offers.get? c.offer = some o ∧ o.request = request
  | decline offer => ∃ o, rows.offers.get? offer = some o ∧ o.request = request
  | cancel c => c.request = request
  | deleteRequest id => id = request
  | _ => False

variable {s : Session} {p : Int → Bool} {o : Operation} {request : Int}

/-- **An operation about one request is local** to any part that has the request. -/
theorem local_action (hs : s.Ready) (ho : o.AimsAt s.store.rows request) (hp : p request)
    (caller : Caller) (now : Instant) : s.Local p (o.action caller now) := by
  cases o with
  | accept c =>
    obtain ⟨x, hx, rfl⟩ := ho
    exact Desk.local_accept hs fun y hy => by rw [Option.some.inj (hy.symm.trans hx)]; exact hp
  | decline offer =>
    obtain ⟨x, hx, rfl⟩ := ho
    exact Desk.local_decline hs fun y hy => by rw [Option.some.inj (hy.symm.trans hx)]; exact hp
  | cancel c =>
    obtain rfl : c.request = request := ho
    exact Desk.local_cancel hs hp
  | deleteRequest id =>
    obtain rfl : id = request := ho
    exact Desk.local_deleteRequest hs hp
  | _ => exact ho.elim

/-- What the operation is about is seen in the part. -/
theorem AimsAt.of_part {rows rows' : Rows} (ho : o.AimsAt rows request) (hp : p request)
    (h : rows'.part p = rows.part p) : o.AimsAt rows' request := by
  have hoffers : ∀ {id : Int} {x : Offer}, rows.offers.get? id = some x → x.request = request →
      rows'.offers.get? id = some x := by
    intro id x hx hreq
    have hpart : (rows.part p).offers.get? id = some x :=
      Table.get?_filter_eq_some.2 ⟨hx, by rw [hreq]; exact hp⟩
    rw [← h] at hpart
    exact (Table.get?_filter_eq_some.1 hpart).1
  cases o with
  | accept c | decline offer =>
    obtain ⟨x, hx, hreq⟩ := ho
    exact ⟨x, hoffers hx hreq, hreq⟩
  | cancel c | deleteRequest id => exact ho
  | _ => exact ho.elim

end Operation

/-! ### Two actions -/

namespace Session

variable {α β : Type} {s : Session} {p : Int → Bool} {m₁ : Desk.Action α} {m₂ : Desk.Action β}

/-- It does not matter which action comes first: the same is stored after both, and each gives what
it gives alone. -/
structure Independent (s : Session) (m₁ : Desk.Action α) (m₂ : Desk.Action β) : Prop where
  rows : (Session.run m₂.run (Session.run m₁.run s).2).2.store.rows =
    (Session.run m₁.run (Session.run m₂.run s).2).2.store.rows
  first : (Session.run m₁.run (Session.run m₂.run s).2).1 = (Session.run m₁.run s).1
  second : (Session.run m₂.run (Session.run m₁.run s).2).1 = (Session.run m₂.run s).1

/-- What a local action leaves alone is the same session for who looks at nothing else. -/
theorem Local.part_run {q : Int → Bool} {m : Desk.Action α}
    (h : (Session.run m.run s).2.store.rows.part q = s.store.rows.part q) :
    (Session.run m.run s).2.part q = s.part q := by
  have hmailbox : (Session.run m.run s).2.mailbox.takeAll.2 = s.mailbox.takeAll.2 := by
    rw [Program.mailbox_dispatched, Mailbox.takeAll_deliverAll]
  rw [Session.part, Session.part, h, hmailbox]

/-- Actions on different parts are independent. -/
theorem independent_of_local (h₁ : s.Local p m₁) (h₁' : (Session.run m₂.run s).2.Local p m₁)
    (h₂ : s.Local (!p ·) m₂) (h₂' : (Session.run m₁.run s).2.Local (!p ·) m₂) :
    s.Independent m₁ m₂ := by
  have hnot : ∀ rows : Rows, rows.rest (!p ·) = rows.part p := fun rows => by simp [Rows.rest]
  have hpart₁ := Local.part_run h₁.rest
  have hpart₂ : (Session.run m₂.run s).2.part p = s.part p := by
    have hrest := h₂.rest
    rw [hnot, hnot] at hrest
    exact Local.part_run hrest
  have hrest₂ := h₂'.rest
  rw [hnot, hnot] at hrest₂
  refine ⟨Rows.eq_of_parts (p := p) ?_ ?_, ?_, ?_⟩
  · calc
      _ = (Session.run m₁.run s).2.store.rows.part p := hrest₂
      _ = (Session.run m₁.run (s.part p)).2.store.rows := h₁.part
      _ = (Session.run m₁.run ((Session.run m₂.run s).2.part p)).2.store.rows := by rw [hpart₂]
      _ = _ := h₁'.part.symm
  · calc
      _ = (Session.run m₂.run ((Session.run m₁.run s).2.part (!p ·))).2.store.rows := h₂'.part
      _ = (Session.run m₂.run (s.part (!p ·))).2.store.rows := by rw [hpart₁]
      _ = (Session.run m₂.run s).2.store.rows.rest p := h₂.part.symm
      _ = _ := h₁'.rest.symm
  · rw [h₁'.result, h₁.result, hpart₂]
  · rw [h₂'.result, h₂.result, hpart₁]

end Session

/-! ### Histories -/

namespace History

variable {s : Session} {ws : List World}

/-- A session whose history is known is ready, if no transaction is open and no fault in force. -/
theorem ready (h : History (⟨s.store, none⟩ :: ws)) (hopened : s.store.opened = .empty)
    (hf : s.faults = []) : s.Ready := by
  obtain ⟨⟨⟨horderly, hlinked, -⟩, -⟩, -⟩ := h.sound
  exact ⟨hf, horderly.still hopened hlinked.keyed, hlinked⟩

/-- After an operation a session is as ready for the next as it was before. -/
theorem ready_action (h : History (⟨s.store, none⟩ :: ws)) (hopened : s.store.opened = .empty)
    (hf : s.faults = []) (o : Operation) (caller : Caller) (now : Instant) :
    (Session.run (o.action caller now).run s).2.Ready := by
  have hruns := Program.runs_run (o.action caller now).run s
  obtain ⟨⟨⟨horderly, -⟩, -⟩, -⟩ := h.sound
  obtain ⟨-, hopened', -⟩ := hruns.restores (Desk.ordered_action o caller now).tidy horderly
  have hrun : Session.run (Task.operate o caller now).program s =
      ((), (Session.run (o.action caller now).run s).2) := Session.run_bind _ _ s
  obtain ⟨ws', h', -⟩ := History.run (Task.operate o caller now).program (h.step (.start _ _))
  rw [hrun] at h'
  exact h'.ready (hopened'.trans hopened) (Session.faults_run _ s hf)

/-- **Operations about different requests are independent.**  After any history, where nobody else is
at work and the store works, take two operations by which an investor accepts or declines an offer,
an administrator cancels lines of a request or a request is deleted, whoever asks for them and
whenever. If they are about different requests it does not matter which comes first: the same is
stored after both, and each gives what it gives alone, be it a result or an error. -/
theorem independent (h : History (⟨s.store, none⟩ :: ws)) (hopened : s.store.opened = .empty)
    (hf : s.faults = []) {o₁ o₂ : Operation} {r₁ r₂ : Int} (h₁ : o₁.AimsAt s.store.rows r₁)
    (h₂ : o₂.AimsAt s.store.rows r₂) (hne : r₁ ≠ r₂) (c₁ c₂ : Caller) (n₁ n₂ : Instant) :
    s.Independent (o₁.action c₁ n₁) (o₂.action c₂ n₂) := by
  have hs := h.ready hopened hf
  have hp₁ : (r₁ == r₁) = true := beq_self_eq_true r₁
  have hp₂ : (!(r₂ == r₁)) = true := by simpa using Ne.symm hne
  have hlocal₁ := Operation.local_action (p := (· == r₁)) hs h₁ hp₁ c₁ n₁
  have hlocal₂ := Operation.local_action (p := fun r => !(r == r₁)) hs h₂ hp₂ c₂ n₂
  refine Session.independent_of_local (p := (· == r₁)) hlocal₁ ?_ hlocal₂ ?_
  · refine Operation.local_action (p := (· == r₁)) (h.ready_action hopened hf o₂ c₂ n₂)
      (h₁.of_part (p := (· == r₁)) hp₁ ?_) hp₁ c₁ n₁
    simpa [Rows.rest] using hlocal₂.rest
  · exact Operation.local_action (h.ready_action hopened hf o₁ c₁ n₁)
      (h₂.of_part hp₂ hlocal₁.rest) hp₂ c₂ n₂

end History

namespace Story

/-- There is an offer for request 1, and request 6 without one. -/
def apart : Session := ⟨(World.played [opened, proposed, opened]).1, .empty true, []⟩

/-- Offer 3 is accepted and request 6 deleted, in either order. -/
theorem independent_apart :
    (Session.run (Desk.accept ⟨3, 4⟩ caller now).run apart).1.isOk ∧
      (Session.run (Desk.deleteRequest 6).run apart).1.isOk ∧
      apart.Independent (Desk.accept ⟨3, 4⟩ caller now) (Desk.deleteRequest 6) := by
  have hplayed : History (⟨apart.store, none⟩ :: _) :=
    World.history_played [opened, proposed, opened]
  have hopened : apart.store.opened = .empty := Table.eq_empty (by decide +kernel)
  have ho : (apart.store.rows.offers.get? 3).isSome := by decide +kernel
  have hreq : (Option.get _ ho).request = 1 := by decide +kernel +revert
  exact ⟨by decide +kernel, by decide +kernel,
    hplayed.independent hopened rfl
      (show Operation.AimsAt _ 1 (.accept ⟨3, 4⟩) from ⟨_, (Option.some_get ho).symm, hreq⟩)
      (show Operation.AimsAt _ 6 (.deleteRequest 6) from rfl) (by decide) caller caller now now⟩

end Story
end LoanDesk
