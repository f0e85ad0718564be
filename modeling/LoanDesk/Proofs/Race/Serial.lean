/-
# Accepting against cancelling

A task that accepts a line and a task that cancels lines run side by side, their steps mixed in any
way. At every moment the tables of the desk are those that the tasks leave which ran one after the
other, each to its end, in one of the two orders, or only one of them or none
(`History.meets_serially`). The tables agree row by row, except for the number of the contract that
the first task may write.
-/

import LoanDesk.Proofs.Race.Accepter
import LoanDesk.Proofs.Race.Alone
import LoanDesk.Proofs.Race.Serial.Renumbered

namespace LoanDesk

/-! ### Tasks one after the other -/

namespace Session

/-- Nothing stands in the way of a task: no fault is in force, and no row is locked. -/
structure Quiet (last : Int) (s : Session) : Prop where
  faults : s.faults = []
  still : s.store.Still
  last : last ≤ s.store.lastId

end Session

/-- A task that can make its stroke is run, and makes it. -/
theorem Stroke.run {last : Int} {t : Task} {s : Session} {rows' : Rows}
    (hd : Stroke last t s.store.rows.desk rows') (ht : s.store.rows.desk.Tended)
    (hs : s.Quiet last) :
    Stroke last t s.store.rows.desk (Session.run t.program s).2.store.rows.desk ∧
      (Session.run t.program s).2.Quiet last := by
  obtain ⟨⟨hstroke, hstill⟩, hf⟩ := Session.run_alone _ s hs.faults (hd.alone ht hs.still)
  exact ⟨hstroke.mono hs.last, hf, hstill,
    Int.le_trans hs.last (Session.lastId_run _ s hs.faults)⟩

namespace Encounter

variable {e : Encounter} {start rows : Rows}

/-- The ways to run the tasks one after the other, or only one of them or none. -/
def orders (e : Encounter) : List (List Task) :=
  [[], [e.accepting], [e.cancelling], [e.accepting, e.cancelling], [e.cancelling, e.accepting]]

/-- The rows are those that the tasks leave when they run in the order. -/
def Serial (e : Encounter) (start : Rows) (order : List Task) (rows : Rows) : Prop :=
  ∀ s : Session, s.store.rows.desk = start → s.Quiet e.last →
    ∃ σ, Rows.Renumbered e.last σ (s.runTasks order).store.rows.desk rows

/-- Neither task was run. -/
theorem serial_nil (hi : start.Issued e.last) : e.Serial start [] start := by
  rintro s rfl -
  exact ⟨_, .refl hi.keyed⟩

/-- Only the task that accepts was run. -/
theorem serial_accept (ht : start.Tended) (hi : start.Issued e.last)
    (hd : Stroke e.last e.accepting start rows) : e.Serial start [e.accepting] rows := by
  rintro s rfl hs
  exact (hd.run ht hs).1.agree hd e.accepts hi

/-- Only the task that cancels was run. -/
theorem serial_cancel (ht : start.Tended) (hi : start.Issued e.last)
    (hd : Stroke e.last e.cancelling start rows) : e.Serial start [e.cancelling] rows := by
  rintro s rfl hs
  have hrun : (s.runTasks [e.cancelling]).store.rows.desk = rows :=
    ((hd.run ht hs).1.eq_clear e.cancels).trans (hd.eq_clear e.cancels).symm
  rw [← hrun] at hd ⊢
  refine ⟨_, .refl ?_⟩
  rw [hd.eq_clear e.cancels]
  exact (hi.clear _).keyed

/-- The task that accepts was run first. -/
theorem serial_accept_cancel {mid : Rows} (ht : start.Tended) (hi : start.Issued e.last)
    (hd : Stroke e.last e.accepting start mid) (hd' : Stroke e.last e.cancelling mid rows) :
    e.Serial start [e.accepting, e.cancelling] rows := by
  rintro s rfl hs
  obtain ⟨hrun, hs'⟩ := hd.run ht hs
  obtain ⟨σ, hσ⟩ := hrun.agree hd e.accepts hi
  have hrun' := ((hd'.renumbered e.cancels hσ).run (hrun.tended ht) hs').1
  refine ⟨σ, ?_⟩
  change Rows.Renumbered e.last σ (Session.run e.cancelling.program _).2.store.rows.desk rows
  rw [hrun'.eq_clear e.cancels, hd'.eq_clear e.cancels]
  exact hσ.clear _

/-- The task that cancels was run first. -/
theorem serial_cancel_accept {mid : Rows} (ht : start.Tended) (hi : start.Issued e.last)
    (hd : Stroke e.last e.cancelling start mid) (hd' : Stroke e.last e.accepting mid rows) :
    e.Serial start [e.cancelling, e.accepting] rows := by
  rintro s rfl hs
  obtain ⟨hrun, hs'⟩ := hd.run ht hs
  have hmid : (Session.run e.cancelling.program s).2.store.rows.desk = mid :=
    (hrun.eq_clear e.cancels).trans (hd.eq_clear e.cancels).symm
  rw [← hmid] at hd'
  refine (hd'.run (hrun.tended ht) hs').1.agree hd' e.accepts ?_
  rw [hrun.eq_clear e.cancels]
  exact hi.clear _

/-- **What strokes leave in any order, tasks leave that run in this order.** -/
theorem serial_of_chain {log : List (Fin 2)} (hc : e.meeting.Chain start log rows)
    (ht : start.Tended) (hi : start.Issued e.last) :
    ∃ order ∈ e.orders, e.Serial start order rows := by
  cases hc with
  | nil => exact ⟨_, by simp [orders], serial_nil hi⟩
  | @snoc _ mid _ j h hj hd =>
    cases h with
    | nil =>
      match j, hd with
      | 0, hd => exact ⟨_, by simp [orders], serial_accept ht hi hd⟩
      | 1, hd => exact ⟨_, by simp [orders], serial_cancel ht hi hd⟩
    | @snoc _ before _ i h hi' hd' =>
      cases h with
      | nil =>
        match i, j, hj, hd', hd with
        | 0, 0, hj, _, _ => exact absurd (by simp) hj
        | 0, 1, _, hd', hd => exact ⟨_, by simp [orders], serial_accept_cancel ht hi hd' hd⟩
        | 1, 0, _, hd', hd => exact ⟨_, by simp [orders], serial_cancel_accept ht hi hd' hd⟩
        | 1, 1, hj, _, _ => exact absurd (by simp) hj
      | @snoc _ _ _ k h hk hd'' =>
        -- there are two tasks, and none is on record twice
        simp only [List.mem_append, List.mem_singleton, not_or] at hj hi'
        omega

end Encounter

/-- **A task that accepts a line and one that cancels lines are serial.** In whatever way their
steps are mixed, the tables are at every moment those that the tasks leave in a session where they
run one after the other, in one of the orders, or only one of them or none: all but the number of
the contract that is written. No line is accepted and stamped as cancelled, and none is open whose
request is closed. -/
theorem History.meets_serially {w : World} {ws : List World} (h : History (w :: ws))
    (hopened : w.store.opened = .empty) {a c : Task} (ha : a.Accepts) (hc : c.Cancels)
    {g : Race 2 Unit} (hg : Race.Runs ⟨w.store, ![a.program, c.program]⟩ g) :
    (∃ order ∈ [[], [a], [c], [a, c], [c, a]], ∀ s : Session, s.store = w.store → s.faults = [] →
      ∃ σ, Rows.Renumbered w.store.lastId σ (s.runTasks order).store.rows g.store.rows) ∧
    (∀ i l, g.store.rows.lines.get? i = some l → ¬l.Contradicts) ∧
    ∀ i l r, g.store.rows.lines.get? i = some l → g.store.rows.requests.get? l.request = some r →
      r.isPending = false → l.isPending = false := by
  obtain ⟨⟨⟨horderly, hlinked, -⟩, -⟩, -, hpaired⟩ := h.sound
  have htended : w.store.rows.desk.Tended :=
    .of_linked hlinked h.neat h.closed hpaired.oneToOne
  have hstill : w.store.Still := horderly.still hopened hlinked.keyed
  let e : Encounter := ⟨w.store.lastId, a, c, ha, hc⟩
  have hmeets : e.meeting.Meets w.store.rows.desk ⟨w.store, ![a.program, c.program]⟩
      (fun _ => []) [] :=
    Meeting.meets_start horderly hopened hlinked.keyed htended (Int.le_refl _)
      (Fin.forall_fin_two.2 ⟨e.leaves_accepting rfl List.not_mem_nil,
        e.leaves_cancelling rfl List.not_mem_nil⟩)
  obtain ⟨mine, log, hmeets⟩ := hmeets.runs hg
  have hg := (hmeets.fit 0).sound
  refine ⟨?_, fun i l hl => (hg.neat.stamped i l hl).not_contradicts, fun i l r hl hr hp => ?_⟩
  · obtain ⟨order, hmem, hserial⟩ := Encounter.serial_of_chain hmeets.chain htended
      (.of_linked hlinked hpaired.oneToOne)
    refine ⟨order, hmem, fun s hs hf => ?_⟩
    obtain ⟨σ, hσ⟩ := hserial s (by rw [hs]) ⟨hf, by rw [hs]; exact hstill, by rw [hs]⟩
    exact ⟨σ, hσ.old, hσ.requests, hσ.offers, hσ.lines, hσ.contracts⟩
  · refine hg.closed.confirmed _ r hr ?_ i l hl rfl
    revert hp
    cases hs : r.status <;> simp [Request.isPending, hs]

namespace Story

/-- A minute and two minutes after everything else. -/
def later (minutes : Int) : Instant := { now with second := now.second + 60 * minutes }

/-- Offer 3 is made for one minute. -/
def limited : Task :=
  .operate (.propose ⟨1, .online, some (later 1), .null, [line 10, line 11]⟩) caller now

/-- Offers whose time has passed are expired. -/
def expiring : Task := .expire "job" (later 2)

/-- The investor has looked at the offer when it expires, and then goes on. -/
def met : Race 2 Unit :=
  ([0, 0] ++ List.replicate 10 (1 : Fin 2) ++ List.replicate 10 0).foldl Race.turn
    ⟨(World.played [limited, opened]).1, ![accepted.program, expiring.program]⟩

/-- Both tasks are done, and line 4 is cancelled, as if one of them had run after the other. -/
theorem meets_serially_met : (∀ i, (given? (met.programs i)).isSome) ∧
    (met.store.rows.lines.get? 4).any (·.cancelReason == .expired) ∧
    ∃ order ∈ [[], [accepted], [expiring], [accepted, expiring], [expiring, accepted]],
      ∀ s : Session, s.store = (World.played [limited, opened]).1 → s.faults = [] →
        ∃ σ, Rows.Renumbered (World.played [limited, opened]).1.lastId σ
          (s.runTasks order).store.rows met.store.rows := by
  have hopened : (World.played [limited, opened]).1.opened = .empty :=
    Table.eq_empty (by decide +kernel)
  exact ⟨by decide +kernel, by decide +kernel,
    (History.meets_serially (World.history_played [limited, opened]) hopened (a := accepted)
      (c := expiring) trivial trivial (Race.runs_turns _ _)).1⟩

end Story
end LoanDesk
