/-
# Callers

`domain/context`: `Actor`, and `OperationContext` as `Caller`. `Actor.ensureScope` is
`ensure_investor_scope` of `workflow`, `Actor.ensureAdmin` is `require_admin` of `api/routes`.

Who acts: an investor, known by number, or an administrator or the system itself, known by name. A
caller may carry an identifier that ties its calls together.

Investors act for themselves only; everybody else for any investor.
-/

import LoanDesk.Refusal

namespace LoanDesk

/-- Who acts. -/
inductive Actor where
  | investor (id : Int)
  | admin (name : String)
  | system (name : String)
  deriving DecidableEq

namespace Actor

/-- The name that cancelled lines and job rows are stamped with. -/
def name : Actor → String
  | investor id => "investor:" ++ Text.ofInt id
  | admin name | system name => name

/-- The number of an investor. -/
def investorId? : Actor → Option Int
  | investor id => some id
  | admin _ | system _ => none

/-- May act for an investor. -/
def ensureScope (actor : Actor) (owner : Int) : Except Refusal Unit :=
  match actor.investorId? with
  | some id => if id = owner then .ok () else .error (.forbidden (.otherInvestor id owner))
  | none => .ok ()

/-- Is no investor. -/
def ensureAdmin (actor : Actor) : Except Refusal Unit :=
  match actor.investorId? with
  | some id => .error (.forbidden (.adminOnly id))
  | none => .ok ()

/-- The actor that a kind and an identifier give. -/
def ofParts? (kind : String) (id : Json) : Option Actor :=
  match kind with
  | "investor" => (ofJson? id).map investor
  | "admin" => (ofJson? id).map admin
  | "system" => (ofJson? id).map system
  | _ => none

instance : Coded Actor where
  toJson
    | investor id => .obj [("kind", .str "investor"), ("id", toJson id)]
    | admin name => .obj [("kind", .str "admin"), ("id", .str name)]
    | system name => .obj [("kind", .str "system"), ("id", .str name)]
  ofJson?
    | .arr [.str kind, id] => ofParts? kind id
    | j => do
      let r ← j.object? ["kind", "id"]
      match r "kind", r "id" with
      | .value kind, .value id => ofParts? (← kind.word?) id
      | _, _ => none

end Actor

/-- An actor and the identifier of its call. -/
structure Caller where
  actor : Actor
  correlation : Option Uuid
  deriving DecidableEq

namespace Caller

/-- A caller without an identifier. -/
def of (actor : Actor) : Caller := ⟨actor, none⟩

/-- The name of the actor. -/
def name (c : Caller) : String := c.actor.name

instance : Coded Caller where
  toJson c := .obj <| ("actor", toJson c.actor) ::
    match c.correlation with
    | some id => [("correlation_id", toJson id)]
    | none => []
  ofJson? j := do
    let r ← j.record? ["actor", "correlation_id"]
    return ⟨← r.required "actor", ← r.optional "correlation_id"⟩

end Caller
end LoanDesk
