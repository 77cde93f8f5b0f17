import TexLog.Pattern.Error
import TexLog.Pattern.Syntax

/-!
# The tokens of written patterns

A pattern is read from left to right over tokens: a character, or a backslash with the character
after it, where half of a surrogate pair may stand for a character. Reading stops at the first
fault. A lone backslash at the end of a pattern is a fault as soon as reading comes up to it,
whatever it is about to read there.
-/

namespace TexLog.Pattern

/-! ## The state of reading -/

/-- What is known after part of a pattern has been read. -/
structure Reading where
  /-- The length of the whole pattern. -/
  length : Nat
  /-- What is still to be read. -/
  rest : Str
  /-- The capturing groups by number from one: the width of each that is closed. -/
  groups : List (Option Width) := []
  /-- The numbers of the named groups. -/
  names : List (Text × Nat) := []
  /-- Inside a look-behind, how many groups had been opened before it. -/
  groupsBeforeLookbehind : Option Nat := none
  /-- The groups that conditions refer to by number, latest first, and where. -/
  conditions : List (Nat × Nat) := []
  /-- The modes asked for at the start of the pattern. -/
  modes : Modes := []

/-- Why reading stops: a fault at a position, or a cause without one. -/
inductive Stop
  /-- A fault, and how many characters lie before it. -/
  | fault (fault : Fault) (position : Nat)
  /-- A bound of a repetition is too large. -/
  | repetitionTooLarge
  /-- A bound of a repetition has too many digits. -/
  | tooManyDigits (digits : Nat)

/-- A step of reading. -/
abbrev Read := StateT Reading (Except Stop)

namespace Reading

/-- How many characters have been read. -/
def position (reading : Reading) : Nat := reading.length - reading.rest.length

/-- The width of a group that is closed. -/
def closedWidth? (reading : Reading) (number : Nat) : Option Width :=
  match number with
  | 0 => none
  | index + 1 => (reading.groups[index]?).join

/-- The width of a node whose groups are closed. -/
def widthOf (reading : Reading) (node : Node) : Width :=
  node.width fun number => (reading.closedWidth? number).getD ⟨0, some 0⟩

end Reading

/-- A token of a written pattern. -/
inductive Token
  /-- A character that no backslash precedes. -/
  | char (c : Char)
  /-- Half of a surrogate pair that no backslash precedes. -/
  | half (index : Fin 0x800)
  /-- A backslash and the character after it. -/
  | escape (c : Char)
  /-- A backslash and half of a surrogate pair after it. -/
  | escapedHalf (index : Fin 0x800)
  deriving DecidableEq, Repr

/-- A token as it is written. -/
def Token.str : Token → Str
  | char c => [.char c]
  | half index => [.half index]
  | escape c => [.char '\\', .char c]
  | escapedHalf index => [.char '\\', .half index]

/-- Takes a token off a string, if it is not empty. -/
def Token.split? : Str → Option (Token × Str)
  | [] => none
  | .char '\\' :: .char c :: rest => some (escape c, rest)
  | .char '\\' :: .half index :: rest => some (escapedHalf index, rest)
  | .char c :: rest => some (char c, rest)
  | .half index :: rest => some (half index, rest)

/-! ## Tokens -/

/-- Stops with a fault that lies `back` characters before the position. -/
def failAt {α : Type} (back : Nat) (fault : Fault) : Read α := do
  throw (.fault fault ((← get).position - back))

/-- Stops with a fault at a given position. -/
def failFrom {α : Type} (position : Nat) (fault : Fault) : Read α := throw (.fault fault position)

/-- The number of characters read so far. -/
def tell : Read Nat := return (← get).position

/-- Goes on at `rest`, unless nothing but a lone backslash is left. -/
def moveTo (rest : Str) : Read Unit := do
  if rest = [.char '\\'] then failFrom ((← get).length - 1) .endsInEscape
  modify ({ · with rest := rest })

/-- The token that comes next, if any. -/
def peek : Read (Option Token) := return (Token.split? (← get).rest).map Prod.fst

/-- Takes the next token, if any. -/
def next : Read (Option Token) := do
  match Token.split? (← get).rest with
  | none => return none
  | some (token, rest) => moveTo rest; return some token

/-- Takes the next token if it is the given character. -/
def accept (c : Char) : Read Bool := do
  if (← peek) = some (.char c) then
    let _ ← next
    return true
  else return false

/-- Takes characters that satisfy `wanted`, at most `limit` of them. -/
def takeWhile (wanted : Char → Bool) : (limit : Nat) → Read Text
  | 0 => return []
  | limit + 1 => do
    match ← peek with
    | some (.char c) =>
      if wanted c then
        let _ ← next
        return c :: (← takeWhile wanted limit)
      else return []
    | _ => return []

/-- Takes all characters that come next and satisfy `wanted`. -/
def takeAll (wanted : Char → Bool) : Read Text := do takeWhile wanted (← get).rest.length

/-- Takes tokens up to a terminator and the terminator; `what` says what they are to name. -/
def takeUntil (terminator : Char) (what : Text) : Read Str := do
  loop ((← get).rest.length + 1) []
where
  loop : Nat → Str → Read Str
    | 0, _ => failAt 0 (.missingName what)
    | fuel + 1, taken => do
      match ← next with
      | none =>
        if taken.isEmpty then failAt 0 (.missingName what)
        else failAt taken.length (.unterminatedName terminator)
      | some token =>
        if token = .char terminator then
          if taken.isEmpty then failAt 1 (.missingName what) else return taken
        else loop fuel (taken ++ token.str)

/-- Takes the rest of a comment that ends in `terminator`, which is taken too. The result says
whether it was found. -/
def skipPast (terminator : Char) : Read Bool := do
  loop ((← get).rest.length + 1)
where
  loop : Nat → Read Bool
    | 0 => return false
    | fuel + 1 => do
      match ← next with
      | none => return false
      | some token => if token = .char terminator then return true else loop fuel

end TexLog.Pattern
