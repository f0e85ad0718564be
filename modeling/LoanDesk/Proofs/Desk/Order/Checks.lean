/-
# Checks and news within actions

An action of the desk checks what it was asked before it changes anything, and tells of what it has
changed afterwards. A check reads nothing and sends nothing: where it fails the action ends, and where
it passes its condition holds from there on. News are sent one after another, and only the number of
those that did not arrive is given.
-/

import LoanDesk.Proofs.Desk.Deed
import LoanDesk.Proofs.Program.Results

namespace LoanDesk
namespace Desk

open Program
open LineStatus (canMove)

variable {α β : Type} {tx : TxId} {b : Book}

/-! ### Checks -/

/-- A check makes no calls. -/
theorem within_ensure (r : Except Refusal Unit) : Within tx (ensure r) := by
  cases r <;> exact trivial

/-- Finding a line makes no calls. -/
theorem within_findLine (lines : List Line) (id : Int) : Within tx (findLine lines id) := by
  unfold findLine
  split <;> exact trivial

/-- A check tells nobody. -/
theorem quiet_ensure (r : Except Refusal Unit) : Quiet (ensure r).run := by
  cases r <;> exact trivial

/-- A check changes no rows. -/
theorem ordered_ensure {D : Book → Book → Prop} (r : Except Refusal Unit) : Ordered D (ensure r) := by
  refine .still ?_ (quiet_ensure r)
  cases r <;> exact rfl

/-- A request that passes the check is open. -/
theorem isPending_of_ensure {r : Request} {u : Unit} (h : r.ensurePending = .ok u) :
    r.isPending := by
  unfold Request.ensurePending at h
  split at h
  · assumption
  · cases h

/-- A move that passes the check is allowed by the flow. -/
theorem canMove_of_ensure {flow : Flow} {source target : LineStatus} {u : Unit}
    (h : source.ensureMove flow target = .ok u) : canMove flow source target := by
  unfold LineStatus.ensureMove at h
  split at h
  · assumption
  · cases h

/-- Only an open line may be cancelled. -/
theorem isPending_of_cancellable {flow : Flow} {l : Line} (h : canMove flow l.status .cancelled) :
    l.isPending := by
  cases hs : l.status with
  | pending => simp [Line.isPending, hs]
  | creatingPackage => cases flow <;> simp [hs, canMove, LineStatus.next] at h
  | cancelled | signed | packageCreated => simp [hs, canMove, LineStatus.next] at h

/-- An offer that allows any move has a flow. -/
theorem flow_of_canMove {flow : Flow} {source target : LineStatus} (h : canMove flow source target) :
    flow ≠ .unspecified := by
  rintro rfl
  cases source <;> cases h

section Shared

variable {Q : β → Book → Prop}

/-- After a check its condition holds. -/
theorem brings_ensure {r : Except Refusal Unit} {f : Unit → Action β}
    (h : r = .ok () → Brings Book.shared Q (fun _ _ => True) (f ()) b) :
    Brings Book.shared Q (fun _ _ => True) (ensure r >>= f) b := by
  cases r with
  | error e => exact fun _ _ => trivial
  | ok u => exact h rfl

/-- The line that is found is one of the lines, and has the number. -/
theorem brings_findLine {lines : List Line} {id : Int} {f : Line → Action β}
    (h : ∀ l ∈ lines, l.id = id → Brings Book.shared Q (fun _ _ => True) (f l) b) :
    Brings Book.shared Q (fun _ _ => True) (findLine lines id >>= f) b := by
  unfold findLine
  split
  · rename_i l hl
    exact h l (List.mem_of_find?_eq_some hl) (by simpa using List.find?_some hl)
  · exact fun _ _ => trivial

end Shared

/-! ### News -/

/-- One event is told, and the result says whether it arrived. -/
theorem telling_tell {P : List Event → β → Prop} (e : Event) {f : Option String → β}
    (h : ∀ undelivered, P [e] (f undelivered)) : Telling P (do return f (← deliver e) : Action β) :=
  (telling_deliver e).bind fun undelivered => telling_pure fun es hes => by
    rw [hes]
    exact h undelivered

/-- The event is the one told, and the result differs only in whether it arrived. -/
theorem telling_tell_eq (e : Event) (f : Option String → β) :
    Telling (fun es a => es = [e] ∧ ∃ undelivered, a = f undelivered)
      (do return f (← deliver e) : Action β) :=
  telling_tell e fun undelivered => ⟨rfl, undelivered, rfl⟩

/-- All events are told, in their order. -/
theorem telling_deliverAll : ∀ es, Telling (fun told _ => told = es) (deliverAll es)
  | [] => telling_pure rfl
  | e :: es => by
    refine (telling_deliver e).bind fun _ => ?_
    refine (telling_deliverAll es).bind fun _ => ?_
    refine telling_pure fun told h₂ first h₁ => ?_
    rw [h₁, h₂, List.append_nil]
    rfl

/-- What arrives makes no difference to the result. -/
theorem heedless_deliverAll : ∀ es, Heedless (fun _ => ()) (deliverAll es)
  | [] => Silent.heedless (silent_done _)
  | e :: es => by
    refine (heedless_deliver e).bind fun _ => ?_
    refine (heedless_deliverAll es).bind fun _ => ?_
    exact akin_pure rfl

end Desk
end LoanDesk
