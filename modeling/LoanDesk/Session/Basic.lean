/-
# Sessions

The workflows of `workflow` and the jobs of `jobs` over one store of `store/memory`.

A store, a mailbox and the faults in force: everything that a program runs against. Faults come
first, and a faulty operation does nothing but fail; only a faulty commit also ends its transaction.
-/

import LoanDesk.Jobs.Timer
import LoanDesk.Session.Fault
import LoanDesk.Session.Mailbox

namespace LoanDesk

/-- What programs run against. -/
structure Session where
  store : Store
  mailbox : Mailbox
  faults : List Fault

namespace Session

/-- An empty store, and a mailbox that keeps its events or not. -/
def empty (keeps : Bool) : Session := ⟨.empty, .empty keeps, []⟩

/-- The error that a fault gives to a call of an operation. -/
def strike (operation : String) : StateM Session (Option StoreError) :=
  modifyGet fun s =>
    let r := Fault.strikeAll operation s.faults
    (r.1, { s with faults := r.2 })

/-- A step of the store. -/
def onStore {α : Type} (f : Store → α × Store) : StateM Session α :=
  modifyGet fun s => let r := f s.store; (r.1, { s with store := r.2 })

/-- What a command does. -/
def handle : (c : Command) → StateM Session c.Answer
  | .begin => do
    match ← strike "begin" with
    | some e => return .error e
    | none => return .ok (← onStore Store.begin)
  | .call tx c => do
    match ← strike c.name with
    | some e => return .error e
    | none => onStore fun s => s.perform tx c
  | .commit tx => do
    match ← strike "commit" with
    | some e =>
      onStore fun s => ((), s.drop tx)
      return .error e
    | none =>
      onStore fun s => ((), s.commit tx)
      return .ok ()
  | .drop tx => onStore fun s => ((), s.drop tx)
  | .deliver e => modifyGet fun s =>
    let r := s.mailbox.deliver e
    (r.1, { s with mailbox := r.2 })

/-- A program is run. -/
def run {α : Type} (p : Program α) : StateM Session α := p.run handle

/-- More batches than a run of the declining job can need. -/
def rounds (s : Session) : Nat := s.store.rows.requests.size + 1

/-- The jobs of a timer are run as they fall due. -/
def runDue (settings : Jobs.Settings) (now : Instant) : List JobKind → StateM Session Unit
  | [] => return ()
  | k :: ks => do
    let _ ← run (Jobs.runOne settings (← get).rounds now k)
    runDue settings now ks

/-- The rows of the store as JSON, those of requests that exist. -/
def dump (s : Session) : Json :=
  let rows := s.store.rows
  let exists_ (id : Int) : Bool := (rows.requests.get? id).isSome
  .obj
    [("requests", toJson rows.requests.values),
      ("offers", toJson (rows.offers.values.filter fun o => exists_ o.request)),
      ("interests", toJson (rows.lines.values.filter fun l => exists_ l.request)),
      ("contracts", toJson rows.contracts.values),
      ("jobs", toJson rows.jobs.values)]

end Session
end LoanDesk
