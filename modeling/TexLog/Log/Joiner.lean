import TexLog.Report

/-!
# Joining wrapped lines

A message may go on over several lines. Once it is complete it is delivered.
-/

/-! ## Delivered diagnostics

Where finished diagnostics go, in the order in which they are finished. What was received can be
emptied by whoever reads it; how many diagnostics of each kind were delivered is counted apart and
for good.
-/

namespace TexLog

/-- A number for each kind of diagnostics. -/
structure Tally where
  /-- How many errors. -/
  errors : Nat := 0
  /-- How many warnings. -/
  warnings : Nat := 0
  deriving DecidableEq, Repr

namespace Tally

/-- The number of one kind. -/
def get (tally : Tally) : Kind → Nat
  | .error => tally.errors
  | .warning => tally.warnings

/-- One more of a kind. -/
def count (tally : Tally) : Kind → Tally
  | .error => { tally with errors := tally.errors + 1 }
  | .warning => { tally with warnings := tally.warnings + 1 }

/-- How many of each kind a list holds. -/
def ofList (diagnostics : List Diagnostic) : Tally :=
  diagnostics.foldl (fun tally diagnostic => tally.count diagnostic.kind) {}

/-- The sum, kind by kind. -/
def add (a b : Tally) : Tally := ⟨a.errors + b.errors, a.warnings + b.warnings⟩

/-- How many of all kinds together. -/
def total (tally : Tally) : Nat := tally.errors + tally.warnings

@[simp] theorem get_count (tally : Tally) (kind other : Kind) :
    (tally.count kind).get other = tally.get other + if kind = other then 1 else 0 := by
  cases kind <;> cases other <;> rfl

end Tally

/-- The diagnostics delivered so far. -/
structure Outbox where
  /-- What was delivered since the outbox was last emptied, in order. -/
  received : List Diagnostic := []
  /-- How many diagnostics were ever delivered. -/
  delivered : Tally := {}
  deriving DecidableEq, Repr

namespace Outbox

/-- Delivers a diagnostic. -/
def deliver (outbox : Outbox) (diagnostic : Diagnostic) : Outbox where
  received := outbox.received ++ [diagnostic]
  delivered := outbox.delivered.count diagnostic.kind

/-- Takes out what was received; the counts stay. -/
def empty (outbox : Outbox) : Outbox := { outbox with received := [] }

end Outbox

end TexLog

/-! ## Joining wrapped lines

A message that ends on a line as wide as the wrap width goes on with the next line. The joiner holds
such a message while it is in progress, adds line after line to it, and delivers it with the first
line that is shorter. The operations that look at the length of a line take the wrap width, which
may be any integer: no line is shorter than a width of zero or less.
-/

namespace TexLog

/-- Whether a message that ends on this line is complete. -/
def isShort (width : Int) (line : Text) : Bool := (line.length : Int) < width

/-- A message in progress, if there is one, and the diagnostics that are finished. -/
structure Joiner where
  /-- The diagnostic in progress, with its message so far. -/
  pending : Option Diagnostic := none
  /-- The diagnostics that are finished. -/
  outbox : Outbox := {}
  deriving DecidableEq, Repr

namespace Joiner

/-- Delivers a finished diagnostic; nothing is in progress after that. -/
def finish (joiner : Joiner) (diagnostic : Diagnostic) : Joiner × Option Diagnostic :=
  (⟨none, joiner.outbox.deliver diagnostic⟩, some diagnostic)

/-- Begins a diagnostic whose message so far ends on the given line. One in progress is dropped. -/
def start (joiner : Joiner) (width : Int) (diagnostic : Diagnostic) (line : Text) :
    Joiner × Option Diagnostic :=
  if isShort width line then joiner.finish diagnostic
  else ({ joiner with pending := some diagnostic }, none)

/-- Adds a line to the message in progress; there is no result if nothing is in progress. -/
def feed? (joiner : Joiner) (width : Int) (line : Text) : Option (Joiner × Option Diagnostic) :=
  joiner.pending.map fun ⟨kind, message⟩ => joiner.start width ⟨kind, message ++ line⟩ line

/-- The words for a line that is to be added although nothing is in progress. -/
def idleMessage : Text := "feed() called while not collecting a message".toList

/-- Delivers the message in progress, if there is one, as it is. -/
def flush (joiner : Joiner) : Joiner × Option Diagnostic :=
  match joiner.pending with
  | some diagnostic => joiner.finish diagnostic
  | none => (joiner, none)

/-- Drops the message in progress. -/
def reset (joiner : Joiner) : Joiner := { joiner with pending := none }

/-- A diagnostic that begins on a short line is complete. -/
theorem start_of_isShort {width : Int} {line : Text} (h : isShort width line = true)
    (joiner : Joiner) (diagnostic : Diagnostic) :
    joiner.start width diagnostic line = joiner.finish diagnostic := by
  simp [start, h]

/-- A diagnostic that begins on a full line is in progress. -/
theorem start_of_not_isShort {width : Int} {line : Text} (h : isShort width line = false)
    (joiner : Joiner) (diagnostic : Diagnostic) :
    joiner.start width diagnostic line = ({ joiner with pending := some diagnostic }, none) := by
  simp [start, h]

end Joiner

end TexLog
