/-
# Actions of the desk

`workflow`: the way in which `ConfirmationWorkflow` uses its store, and `dispatch` as `deliver`.

An action is a program that may fail with what its caller is told. `change` is an action that
commits, `look` one that only reads.
-/

import LoanDesk.Caller
import LoanDesk.Desk.Command
import LoanDesk.Program

namespace LoanDesk

namespace Desk

/-- A program of the desk. -/
abbrev Action := ExceptT Failure Program

/-- A rule is checked. -/
def ensure (r : Except Refusal Unit) : Action Unit :=
  match r with
  | .ok () => pure ()
  | .error refusal => throw (.refused refusal)

/-- An input has no flaw. -/
def ensureSound (flaw? : Option Flaw) : Action Unit :=
  match flaw? with
  | some flaw => throw (.refused (.invalid flaw))
  | none => pure ()

/-- An action in a transaction that is committed. -/
def change {α : Type} (body : TxId → Action α) : Action α :=
  Program.bracket Failure.ofStore (fun _ => true) body

/-- An action in a transaction that is dropped in any case. -/
def look {α : Type} (body : TxId → Action α) : Action α :=
  Program.bracket Failure.ofStore (fun _ => false) body

/-- A call inside a transaction. -/
def ask (tx : TxId) (c : Call) : Action c.Answer := Program.ask Failure.ofStore tx c

/-- An event is delivered after the change it tells of. -/
def deliver (e : Event) : Action (Option String) := ExceptT.lift (Program.deliver e)

end Desk
end LoanDesk
