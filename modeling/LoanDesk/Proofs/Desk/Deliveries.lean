/-
# Deliveries that fail

The desk tells investors of what it has done, and the telling may fail: a notifier may be out of
reach, or turn some events away. Nothing that is stored depends on that. Whatever a notifier
answers, every operation and every run of a job makes the same changes, fails where it would have
failed anyway, and gives the same result but for the note that an event was not delivered
(`Operation.unheard`). The report of a job has no such note.

The events come after the change that they tell of, and each of them is told no matter what became
of those before, so the notifiers hear of the same events too.
-/

import LoanDesk.Proofs.Desk.Jobs
import LoanDesk.Jobs.Timer

namespace LoanDesk

open Program

namespace Jobs

variable {actor : String} {batch : Int} {rounds : Nat} {now : Instant}

/-- What requests are told to be declined does not depend on what arrives. -/
theorem regardless_announce : ∀ rs, Regardless Eq (announce rs) (announce rs)
  | [] => .done rfl
  | _ :: rs => (regardless_deliver _).bind fun _ => regardless_announce rs

/-- A run that declines requests has its report ready when it tells of them. -/
theorem regardless_decline :
    Regardless Eq (decline actor batch rounds now) (decline actor batch rounds now) := by
  refine Silent.regardless_bind (silent_bracket fun tx => (within_ask _ _).quiet) fun r => ?_
  rcases r with e | c?
  · exact (Silent.bind (fun _ => silent_done _) (silent_writeRecord _)).regardless
  cases c? with
  | none => exact .done rfl
  | some c =>
    refine (silent_declineBatches c rounds).regardless_bind fun declined => ?_
    refine (silent_writeRecord _).regardless_bind fun record => ?_
    exact (regardless_announce _).bind fun _ => .done rfl

/-- Nor does any other part of a run of the jobs. -/
theorem regardless_runAll (settings : Settings) :
    Regardless Eq (runAll settings rounds now) (runAll settings rounds now) := by
  refine silent_expire.regardless_bind fun expiration => ?_
  refine regardless_decline.bind fun {decline _} h => ?_
  obtain rfl := h
  exact .done rfl

end Jobs

namespace Session

/-- **Deliveries change nothing.** From any session, whatever is stored, open or locked in its store
and whichever faults it has, two notifiers leave the same session and are told the same events: the
stores agree in their rows, their locks, their open transactions and their last numbers. Every
operation gives the same result or the same error, but for its note on events that were not
delivered, and every run of a job gives the same report. With its own mailbox for a notifier this
is what the session does (`run_eq_runWith`). -/
theorem deliveries_change_nothing (s : Session) (n n' : Notifier) :
    (∀ (o : Operation) (caller : Caller) (now : Instant),
      (runWith n (o.action caller now).run (s, [])).1.map o.unheard =
          (runWith n' (o.action caller now).run (s, [])).1.map o.unheard ∧
        (runWith n (o.action caller now).run (s, [])).2 =
          (runWith n' (o.action caller now).run (s, [])).2) ∧
      (∀ (actor : String) (now : Instant),
        runWith n (Jobs.expire actor now) (s, []) = runWith n' (Jobs.expire actor now) (s, [])) ∧
      (∀ (actor : String) (batch : Int) (rounds : Nat) (now : Instant),
        runWith n (Jobs.decline actor batch rounds now) (s, []) =
          runWith n' (Jobs.decline actor batch rounds now) (s, [])) ∧
      ∀ (settings : Jobs.Settings) (rounds : Nat) (now : Instant),
        runWith n (Jobs.runAll settings rounds now) (s, []) =
          runWith n' (Jobs.runAll settings rounds now) (s, []) := by
  have hjob {α : Type} {p : Program α} (h : Regardless Eq p p) :
      runWith n p (s, []) = runWith n' p (s, []) :=
    Prod.ext_iff.2 (h.runWith n n' (s, []))
  refine ⟨fun o caller now => ?_, fun _ _ => ?_, fun _ _ _ _ => ?_, fun _ _ _ => ?_⟩
  · exact (Desk.announces_action o caller now).heedless.runWith n n' (s, [])
  · exact hjob Jobs.silent_expire.regardless
  · exact hjob Jobs.regardless_decline
  · exact hjob (Jobs.regardless_runAll _)

end Session
end LoanDesk
