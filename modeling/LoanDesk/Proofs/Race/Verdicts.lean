/-
# What operations answer

Where the store works and no other transaction is open, it depends on the rows whether an operation
succeeds. It goes through where its condition holds, and is refused where it does not; so it succeeds
if and only if the condition holds (`History.succeeds_iff`). Any failure is about what was asked.
-/

import LoanDesk.Proofs.Race.Serial
import LoanDesk.Proofs.Race.Verdicts.Questions

namespace LoanDesk

/-! ### Sessions -/

/-- An action succeeds in a session if and only if a condition holds, where it goes through if the
condition holds and is refused if not. -/
theorem Session.isOk_iff {α : Type} {s : Session} (hf : s.faults = []) {m : Desk.Action α}
    {C : Prop} {Q : α → Store → Prop} (hyes : C → Program.Alone Q m s.store)
    (hno : ¬C → Desk.Refuses m s.store) : (Session.run m.run s).1.isOk ↔ C := by
  by_cases hC : C
  · obtain ⟨h, -⟩ := Session.run_alone m.run s hf (hyes hC)
    cases hr : (Session.run m.run s).1 with
    | error e =>
      rw [hr] at h
      exact h.elim
    | ok a => exact ⟨fun _ => hC, fun _ => rfl⟩
  · obtain ⟨h, -⟩ := Session.run_alone m.run s hf (hno hC)
    cases hr : (Session.run m.run s).1 with
    | error e => exact ⟨nofun, fun h => absurd h hC⟩
    | ok a =>
      rw [hr] at h
      exact h.elim

namespace History

variable {w : World} {ws : List World}

/-- A world in which no transaction is open is at rest. -/
theorem rests (h : History (w :: ws)) (hopened : w.store.opened = .empty) : w.store.Rests := by
  obtain ⟨⟨⟨horderly, hlinked, -⟩, -⟩, -, hpaired⟩ := h.sound
  exact ⟨horderly.still hopened hlinked.keyed, hlinked,
    .of_linked hlinked h.neat h.closed hpaired.oneToOne, hpaired.oneToOne⟩

/-- **When operations succeed.**  After any history, where no other transaction is open and the store
works, an operation that takes or cancels lines or deletes a request succeeds if and only if the rows
are as they should be, for any caller and at any time. The administrator's confirmation takes the
greatest of the open lines with the loan. A package is also created for a line that is still open,
and only after that an open request may not be deleted. No operation at all fails because of the
store. -/
theorem succeeds_iff (h : History (w :: ws)) (hopened : w.store.opened = .empty) {s : Session}
    (hs : s.store = w.store) (hf : s.faults = []) (caller : Caller) (now : Instant) :
    let rows := w.store.rows
    (∀ c, (Session.run (Desk.accept c caller now).run s).1.isOk ↔
      rows.Acceptable caller.actor now c) ∧
    (∀ c, let t := Session.run (Desk.confirm c caller now).run s
      (t.1.isOk ↔ ∃ l, rows.Confirmable c l) ∧ ∀ a, t.1 = .ok a → ∃ l, rows.Confirmable c l ∧
        (∀ m, rows.Confirmable c m → m.id ≤ l.id) ∧ a.line.id = l.id ∧
          ∃ l', t.2.store.rows.lines.get? l.id = some l' ∧ l'.status = .packageCreated) ∧
    (∀ line, (Session.run (Desk.createPackage line now).run s).1.isOk ↔ rows.Packageable line) ∧
    (∀ id, (∀ i l, rows.lines.get? i = some l → l.request = id → ¬Hasty (w :: ws) i) →
      ((Session.run (Desk.deleteRequest id).run s).1.isOk ↔
        ∃ r, rows.requests.get? id = some r ∧ r.isPending)) ∧
    (∀ offer, (Session.run (Desk.decline offer caller now).run s).1.isOk ↔
      rows.Declinable caller.actor offer) ∧
    ∀ (o : Operation) (f : Failure),
      (Session.run (o.action caller now).run s).1 = .error f → f.IsPlain := by
  have hq : s.store.Rests := by
    rw [hs]
    exact h.rests hopened
  have hsettled : s.store.rows.Settled (Hasty (w :: ws)) := by
    rw [hs]
    exact h.sound.2.1
  rw [← hs]
  refine ⟨fun c => Session.isOk_iff hf (Desk.succeeds_accept hq) (Desk.refuses_accept hq),
    fun c => ?_,
    fun line => Session.isOk_iff hf (Desk.succeeds_createPackage hq) (Desk.refuses_createPackage hq),
    fun id hhasty => ?_,
    fun offer => Session.isOk_iff hf (Desk.succeeds_decline hq) (Desk.refuses_decline hq),
    fun o f ho => ?_⟩
  · have hiff : (Session.run (Desk.confirm c caller now).run s).1.isOk ↔
        ∃ l, s.store.rows.Confirmable c l :=
      Session.isOk_iff hf (fun ⟨_, hl⟩ => Desk.alone_true (Desk.succeeds_confirm hq hl))
        fun hc => Desk.refuses_confirm hq (not_exists.1 hc)
    refine ⟨hiff, fun a ha => ?_⟩
    obtain ⟨l, hl⟩ := hiff.1 (by rw [ha]; rfl)
    have hrun := (Session.run_alone (Desk.confirm c caller now).run s hf
      (Desk.succeeds_confirm hq hl)).1
    rw [ha] at hrun
    exact hrun
  · rw [Session.isOk_iff hf (Desk.succeeds_deleteRequest hq) (Desk.refuses_deleteRequest hq)]
    refine ⟨fun ⟨r, hr, hp, _⟩ => ⟨r, hr, hp⟩, fun ⟨r, hr, hp⟩ => ⟨r, hr, hp, fun i l hl hreq => ?_⟩⟩
    cases ha : l.status.isAccepted with
    | false => rfl
    | true =>
      -- an accepted line of an open request was taken in haste
      rcases hsettled.confirmed i l hl ha with hx | ⟨r', hr', hconfirmed⟩
      · exact absurd hx (hhasty i l hl hreq)
      · rw [hreq, hr] at hr'
        rw [Option.some.inj hr', Request.isPending, hconfirmed] at hp
        cases hp
  · have hrun := (Session.run_alone (o.action caller now).run s hf (Desk.answers_action o hq)).1
    rw [ho] at hrun
    exact hrun

end History

namespace Story

/-- Line 4 waits for its package, and line 5 is cancelled. -/
def awaiting : Session := ⟨(World.played [accepted, proposed, opened]).1, .empty true, []⟩

/-- The package of line 4 is created and that of line 5 is not, the offer cannot be declined any
more, and whatever else is asked, no failure is the store's. -/
theorem succeeds_iff_awaiting :
    (Session.run (Desk.createPackage 4 now).run awaiting).1.isOk ∧
      ¬(Session.run (Desk.createPackage 5 now).run awaiting).1.isOk ∧
      ¬(Session.run (Desk.decline 3 caller now).run awaiting).1.isOk ∧
      ∀ (o : Operation) (f : Failure),
        (Session.run (o.action caller now).run awaiting).1 = .error f → f.IsPlain := by
  have hopened : (World.played [accepted, proposed, opened]).1.opened = .empty :=
    Table.eq_empty (by decide +kernel)
  have hwaits : (awaiting.store.rows.lines.get? 4).map (·.status) = some .creatingPackage := by
    decide +kernel
  have hcancelled : (awaiting.store.rows.lines.get? 5).map (·.status) = some .cancelled := by
    decide +kernel
  have hclosed : ∀ l ∈ awaiting.store.rows.lines.values, l.isPending = false := by decide +kernel
  obtain ⟨-, -, hpackage, -, hdecline, hplain⟩ :=
    History.succeeds_iff (World.history_played [accepted, proposed, opened]) hopened (s := awaiting)
      rfl rfl caller now
  refine ⟨(hpackage 4).2 ?_, fun h => ?_, fun h => ?_, hplain⟩
  · obtain ⟨l, hl, hs⟩ := Option.map_eq_some_iff.1 hwaits
    exact ⟨l, hl, Or.inl hs⟩
  · obtain ⟨l, hl, hs⟩ := (hpackage 5).1 h
    rw [show awaiting.store.rows.lines.get? 5 = some l from hl] at hcancelled
    have hstatus : l.status = .cancelled := Option.some.inj hcancelled
    rw [Line.isPending, hstatus] at hs
    rcases hs with hs | hs <;> cases hs
  · obtain ⟨_, _, -, -, -, i, l, hl, -, hp⟩ := (hdecline 3).1 h
    rw [hclosed l (Table.mem_values.2 ⟨i, hl⟩)] at hp
    cases hp

end Story
end LoanDesk
