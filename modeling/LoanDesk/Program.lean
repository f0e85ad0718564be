/-
# Programs

`store`: what `Store` and `StoreTx` offer, as commands; what `Notifier` of `notification` does, as
one more.

What the desk and the jobs do is a sequence of commands: begin a transaction, make a call in it,
commit or drop it, deliver an event. A program is such a sequence as a tree, one branch for each
answer that a command may get, so that programs may be run against any store, and several of them
side by side with one command at a time.

`bracket` is the only way in which programs here use a transaction: it ends with a commit, or with a
drop where its body fails or only read.
-/

import LoanDesk.Event
import LoanDesk.Store.State

namespace LoanDesk

/-- One atomic step of a program. -/
inductive Command where
  | begin
  | call (tx : TxId) (c : Call)
  | commit (tx : TxId)
  | drop (tx : TxId)
  | deliver (e : Event)

/-- What a command gives. -/
abbrev Command.Answer : Command → Type
  | begin => Except StoreError TxId
  | call _ c => Except StoreError c.Answer
  | commit _ => Except StoreError Unit
  | drop _ => Unit
  | deliver _ => Except DeliveryError Unit

/-- A result, or a command and what follows on each of its answers. -/
inductive Program (α : Type) : Type where
  | done (a : α)
  | step (c : Command) (next : c.Answer → Program α)

namespace Program

/-- One program after another. -/
def bind {α β : Type} (p : Program α) (f : α → Program β) : Program β :=
  match p with
  | done a => f a
  | step c next => step c fun answer => bind (next answer) f

instance : Monad Program where
  pure := done
  bind := bind

/-- What follows a program that is done starts with what it gave. -/
@[simp] theorem bind_done {α β : Type} (a : α) (f : α → Program β) : bind (done a) f = f a := rfl

/-- What follows a program comes after its first command too. -/
@[simp] theorem bind_step {α β : Type} (c : Command) (next : c.Answer → Program α)
    (f : α → Program β) : bind (step c next) f = step c fun x => bind (next x) f := rfl

/-- A program that is followed by nothing is that program. -/
theorem bind_pure {α : Type} (p : Program α) : bind p done = p := by
  induction p with
  | done a => rfl
  | step c next ih => simp [ih]

/-- Programs that follow each other may be put together in any grouping. -/
theorem bind_assoc {α β γ : Type} (p : Program α) (f : α → Program β) (g : β → Program γ) :
    bind (bind p f) g = bind p fun a => bind (f a) g := by
  induction p with
  | done a => rfl
  | step c next ih => simp [ih]

/-- One command. -/
def command (c : Command) : Program c.Answer := step c done

/-- A program with a meaning given to each command. -/
def run {m : Type → Type} [Monad m] (handle : (c : Command) → m c.Answer) {α : Type} :
    Program α → m α
  | done a => pure a
  | step c next => do run handle (next (← handle c))

/-- A body inside a transaction of its own. Where the body fails the transaction is dropped, else it
is committed if the result is worth keeping. -/
def bracket {ε α : Type} (blame : StoreError → ε) (keep : α → Bool)
    (body : TxId → ExceptT ε Program α) : ExceptT ε Program α := do
  match ← ExceptT.lift (command .begin) with
  | .error e => throw (blame e)
  | .ok tx =>
    match ← ExceptT.lift (body tx).run with
    | .error e =>
      ExceptT.lift (command (.drop tx))
      throw e
    | .ok a =>
      if keep a then
        match ← ExceptT.lift (command (.commit tx)) with
        | .ok () => return a
        | .error e => throw (blame e)
      else
        ExceptT.lift (command (.drop tx))
        return a

/-- A call inside a transaction. -/
def ask {ε : Type} (blame : StoreError → ε) (tx : TxId) (c : Call) :
    ExceptT ε Program c.Answer := do
  match ← ExceptT.lift (command (.call tx c)) with
  | .ok a => return a
  | .error e => throw (blame e)

/-- An event is delivered; why it was not, if it was not. -/
def deliver (e : Event) : Program (Option String) := do
  match ← command (.deliver e) with
  | .ok () => return none
  | .error e => return some e.message

end Program
end LoanDesk
