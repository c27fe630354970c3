import AuctionHouse.Item

/-!
# Phases

Where an item stands in time: before its window, in it, or past it.  An item is closed when its
round has ended in one way or the other.
-/

namespace AuctionHouse

/-- The part of its time that an item is in. -/
inductive Phase where
  | pending
  | active
  | ended
deriving DecidableEq, Repr

namespace Phase

/-- All phases, in their order. -/
def all : List Phase := [pending, active, ended]

/-- The name of a phase in data. -/
def name : Phase → String
  | pending => "pending"
  | active => "active"
  | ended => "ended"

/-- The phase of a name in data. -/
def ofName? (name : String) : Option Phase :=
  all.find? (·.name = name)

/-- The name of a phase for people. -/
def title : Phase → String
  | pending => "Pending"
  | active => "Active"
  | ended => "Ended"

@[simp] theorem ofName?_name (p : Phase) : ofName? p.name = some p := by cases p <;> rfl

end Phase

/-- A phase with the two readings of the clock that it comes from. -/
structure PhaseStatus where
  phase : Phase
  startPassed : Bool
  endPassed : Bool
deriving DecidableEq, Repr

namespace Window

/-- The status at a time (`resolve`).  Both ends of the window belong to what is before them. -/
def statusAt (window : Window) (now : Instant) : PhaseStatus :=
  let startPassed : Bool := window.opens < now
  let endPassed : Bool := window.closes < now
  { phase := if endPassed then .ended else if startPassed then .active else .pending
    startPassed
    endPassed }

/-- The state of an item that is registered at a time (`initial_workflow`). -/
def initialWorkflow (window : Window) (now : Instant) : Workflow :=
  if (window.statusAt now).startPassed then .active else .notStarted

end Window

namespace PhaseStatus

/-- Whether an item is closed, by its state or by the time (`is_closed`). -/
def isClosed (status : PhaseStatus) (workflow : Workflow) : Bool :=
  workflow.isTerminal || status.phase = .ended

/-- Whether an item reports open: its state says so or its start has passed (`is_open`).  The strict
reading also asks that it is not closed. -/
def isOpen (status : PhaseStatus) (workflow : Workflow) (strict : Bool) : Bool :=
  (workflow = .active || status.startPassed) && !(strict && status.isClosed workflow)

end PhaseStatus

end AuctionHouse
