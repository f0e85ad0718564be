/-
# Mailboxes

An implementation of `Notifier`, of which `notification` has one that only logs.

Where events go. A mailbox keeps the events that were delivered and may be told to turn some of them
away from now on; an event turned away is not kept. A mailbox that keeps nothing takes every event.
-/

import LoanDesk.Event

namespace LoanDesk

/-- Events that are turned away: those of given names, all of them where no names are given. -/
structure Outage where
  error : DeliveryError
  only : Option (List String)
  deriving DecidableEq

/-- Where events go. -/
structure Mailbox where
  keeps : Bool
  outage : Option Outage
  events : List Event
  deriving DecidableEq

namespace Mailbox

/-- A mailbox without events. -/
def empty (keeps : Bool) : Mailbox := ⟨keeps, none, []⟩

/-- The outage turns the event away. -/
def turnsAway (o : Outage) (e : Event) : Bool :=
  match o.only with
  | some names => names.contains e.name
  | none => true

/-- An event comes in. -/
def deliver (m : Mailbox) (e : Event) : Except DeliveryError Unit × Mailbox :=
  if m.keeps then
    match m.outage.filter (turnsAway · e) with
    | some o => (.error o.error, m)
    | none => (.ok (), { m with events := m.events ++ [e] })
  else (.ok (), m)

/-- The events are taken out. -/
def takeAll (m : Mailbox) : List Event × Mailbox := (m.events, { m with events := [] })

end Mailbox
end LoanDesk
