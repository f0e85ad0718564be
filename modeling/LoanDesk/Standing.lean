/-
# Where a request stands

`domain/combined`: `CombinedStatus` as `Standing`, `derive_combined_status` as `Standing.of`,
`latest_cancel_reason` as `latestReason`, `CombinedLoanRequest` as `RequestOverview`.

The standing of a request is not stored but read off its lines. The furthest of them decides:

`PACKAGE_CREATED` > `SIGNED` > `CREATING_LOAN_PACKAGE` > `PENDING` > `CANCELLED`

Where every line is cancelled the standing carries the reason that was stamped last, not counting
unknown ones. A request without lines is pending while it is open, and cancelled by an administrator
otherwise.
-/

import LoanDesk.Offer

namespace LoanDesk

/-- Where a request stands. -/
inductive Standing where
  | pending
  | creatingPackage
  | signed
  | packageCreated
  | cancelled (reason : CancelReason)
  deriving DecidableEq

namespace Standing

/-- Nothing is open or accepted. -/
def isCancelled : Standing → Bool
  | cancelled _ => true
  | _ => false

/-- The time that a line's cancellation counts from. -/
def stamp (l : Line) : Instant := l.cancelledAt.getD l.updatedAt

/-- `b` is stamped no earlier than `a`; of one time, the line of greater number is later. -/
def notBefore (a b : Line) : Bool :=
  stamp a < stamp b || (stamp a == stamp b && a.id ≤ b.id)

/-- The line that is stamped last. -/
def latest? (ls : List Line) : Option Line :=
  ls.foldl (fun best l => match best with
    | none => some l
    | some b => if notBefore b l then some l else some b) none

/-- The reason stamped last, not counting unknown ones; that of an administrator where there is
none. -/
def latestReason (ls : List Line) : CancelReason :=
  match latest? (ls.filter fun l => l.cancelReason != .unknown) with
  | some l => l.cancelReason
  | none => .admin

/-- The standing of a request with these lines. -/
def of (r : Request) (ls : List Line) : Standing :=
  let has (s : LineStatus) : Bool := ls.any fun l => l.status == s
  if ls.isEmpty then (if r.isPending then pending else cancelled .admin)
  else if has .packageCreated then packageCreated
  else if has .signed then signed
  else if has .creatingPackage then creatingPackage
  else if has .pending then pending
  else cancelled (latestReason ls)

/-- The word of a standing. -/
def word : Standing → String
  | pending => "PENDING"
  | creatingPackage => "CREATING_LOAN_PACKAGE"
  | signed => "SIGNED"
  | packageCreated => "PACKAGE_CREATED"
  | cancelled _ => "CANCELLED"

/-- The standing that a word names, given where its reason is to be found. -/
def ofWord? (word : String) (reason : Option CancelReason) : Option Standing :=
  match word with
  | "PENDING" => some pending
  | "CREATING_LOAN_PACKAGE" => some creatingPackage
  | "SIGNED" => some signed
  | "PACKAGE_CREATED" => some packageCreated
  | "CANCELLED" => reason.map cancelled
  | _ => none

instance : Coded Standing where
  toJson
    | cancelled reason => .obj [("status", .str "CANCELLED"), ("reason", toJson reason)]
    | s => .obj [("status", .str s.word)]
  ofJson?
    | .arr [.str word] => ofWord? word none
    | .arr [.str word, reason] =>
      if word = "CANCELLED" then ofWord? word (ofJson? reason.emptied) else none
    | j => do
      match (← j.object? ["status"]) "status" with
      | .value (.str word) => ofWord? word ((j.object? ["reason"]).bind (·.emptied.required "reason"))
      | _ => none

end Standing

/-- A request with its standing. -/
structure RequestOverview where
  request : Request
  standing : Standing
  lineCount : Nat
  deriving DecidableEq

namespace RequestOverview

/-- The overview of a request with these lines. -/
def of (r : Request) (ls : List Line) : RequestOverview := ⟨r, Standing.of r ls, ls.length⟩

instance : Coded RequestOverview where
  toJson o := .obj <| o.request.fields ++
    [("combined_status", toJson o.standing), ("interest_count", toJson o.lineCount)]
  ofJson? j := do
    let own ← j.object? ["combined_status", "interest_count"]
    let r ← j.object? Request.fieldNames
    return {
      request := ← Request.ofRecord? r.emptied
      standing := ← own.required "combined_status"
      lineCount := ← own.required "interest_count" }

end RequestOverview
end LoanDesk
