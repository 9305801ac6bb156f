/-!
# Schedules

A schedule says whether independent pieces of work are done one after another or at the same time.
An adaptive schedule decides by their number. Whatever the schedule, the results come in the order
of the pieces.
-/

namespace ProseTree.Reading

/-- How independent pieces of work are done. -/
inductive Mode where
  | sequential
  | parallel
  | adaptive
  deriving DecidableEq, Repr

/-- The mode for a number of pieces: two pieces at least and as many as the threshold make parallel
work worth its cost. -/
def Mode.ofCount (count threshold : Nat) : Mode :=
  if count < 2 || count < threshold then .sequential else .parallel

/-- A mode, the number of pieces from which an adaptive mode is parallel, and the number of workers
when it is not left open. -/
structure Schedule where
  mode : Mode := .adaptive
  threshold : Nat := 64
  workers : Option Nat := none
  deriving DecidableEq, Repr

namespace Schedule

/-- The schedule that never works in parallel. -/
def sequential : Schedule :=
  { mode := .sequential }

/-- The mode that the schedule takes for a number of pieces. -/
def modeFor (schedule : Schedule) (count : Nat) : Mode :=
  match schedule.mode with
  | .adaptive => .ofCount count schedule.threshold
  | mode => mode

/-- The results of a function on every piece, in the order of the pieces. -/
def map {α β : Type} (schedule : Schedule) (work : α → β) (pieces : List α) : List β :=
  match schedule.modeFor pieces.length with
  | .parallel => (pieces.map fun piece => Task.spawn fun _ => work piece).map Task.get
  | _ => pieces.map work

/-- A schedule never changes a result or its place. -/
theorem map_eq {α β : Type} (schedule : Schedule) (work : α → β) (pieces : List α) :
    schedule.map work pieces = pieces.map work := by
  unfold map
  split
  · simp [Task.spawn]
  · rfl

end Schedule

end ProseTree.Reading
