import TexLog.Text.Basic

/-!
# Recent lines

The most recent lines of a log, as many as fit. A message that was wrapped may begin on one line and
be recognised only together with the next, so the line before the current one is kept.
-/

namespace TexLog

/-- The most recent lines, at most `capacity` of them. -/
structure RecentLines (capacity : Nat) where
  /-- The lines, the oldest first. -/
  lines : List Text := []
  length_le : lines.length ≤ capacity := by simp

namespace RecentLines

/-- Why lines cannot be kept. -/
inductive CapacityError
  /-- There is room for no line. -/
  | noRoom
  /-- More room is asked for than there can be. -/
  | tooLarge
  deriving DecidableEq, Repr

/-- The words for the reason. -/
def CapacityError.message : CapacityError → Text
  | noRoom => "Window capacity must be at least 1".toList
  | tooLarge => "Python int too large to convert to C ssize_t".toList

/-- Capacities are smaller than this. -/
def capacityLimit : Int := 0x8000000000000000

/-- The capacity that is asked for, if it leaves room for a line and is not too large. -/
def capacity (asked : Int) : Except CapacityError Nat :=
  if asked < 1 then .error .noRoom
  else if capacityLimit ≤ asked then .error .tooLarge
  else .ok asked.toNat

variable {capacity : Nat}

/-- Adds a line; the oldest one makes room for it if need be. -/
def push (recent : RecentLines capacity) (line : Text) : RecentLines capacity where
  lines := (recent.lines ++ [line]).drop (recent.lines.length + 1 - capacity)
  length_le := by simp; omega

/-- Forgets all lines. -/
def clear (_ : RecentLines capacity) : RecentLines capacity := {}

/-- The lines one after another, with nothing in between. -/
def text (recent : RecentLines capacity) : Text := recent.lines.flatten

/-- Whether there is an oldest line and it is empty. -/
def oldestIsEmpty (recent : RecentLines capacity) : Bool := recent.lines.head?.any List.isEmpty

/-- The line before the newest. -/
def previous? (recent : RecentLines capacity) : Option Text := recent.lines.dropLast.getLast?

@[simp] theorem lines_clear (recent : RecentLines capacity) : recent.clear.lines = [] := rfl

/-- With room for two, a line is kept together with the one pushed before it. -/
theorem lines_push_two (recent : RecentLines 2) (line : Text) :
    (recent.push line).lines = recent.lines.getLast?.toList ++ [line] := by
  have := recent.length_le
  match lines : recent.lines with
  | [] => simp [push, lines]
  | [_] => simp [push, lines]
  | [_, _] => simp [push, lines]
  | _ :: _ :: _ :: _ => simp [lines] at this

end RecentLines

end TexLog
