import TexLog.Pattern.Matching
import TexLog.Pattern.Reader

/-!
# Using patterns

A `Pattern` is what reading a written pattern gives. `Pattern.read` refuses what cannot be used, and
`Pattern.search` finds the leftmost place where the pattern matches and, there, the match that
backtracking prefers.
-/

namespace TexLog

/-- A pattern that can be searched for. -/
structure Pattern where
  /-- What is to be matched. -/
  node : Pattern.Node
  /-- The modes that hold for all of it. -/
  modes : Pattern.Modes
  /-- The numbers of the named groups. -/
  names : List (Text × Nat)
  deriving DecidableEq, Repr

namespace Pattern

/-- Widths below this number are told apart; a larger one counts as not fixed. -/
def widthLimit : Nat := 4294967295

/-- Look-behinds are narrower than this. -/
def lookbehindLimit : Nat := 2147483648

/-- The name by which a fault calls a repetition. -/
def Greed.operator : Greed → Text
  | .greedy => "MAX_REPEAT".toList
  | .lazy => "MIN_REPEAT".toList
  | .possessive _ => "POSSESSIVE_REPEAT".toList

/-- The first reason why a node that has been read cannot be matched: a look-behind without a fixed
width, or a repetition although the pattern is to have none. -/
def Node.fault? (modes : Modes) : Node → Option Fault
  | .empty | .never | .one _ | .anchor _ | .backref _ => none
  | .cat first second | .alt first second | .ifGroup _ first second =>
    first.fault? modes <|> second.fault? modes
  | .group _ on off body => body.fault? (modes.change on off)
  | .repeated greed _ _ body =>
    if modes.contains .template then some (.repetitionInTemplate greed.operator)
    else body.fault? modes
  | .look .ahead _ body | .atomic body => body.fault? modes
  | .look (.behind width) _ body =>
    if width.most = some width.least ∧ width.least < widthLimit then body.fault? modes
    else some .lookbehindWidth

/-- Whether a node has a look-behind that is too wide. -/
def Node.looksTooFar : Node → Bool
  | .empty | .never | .one _ | .anchor _ | .backref _ => false
  | .cat first second | .alt first second | .ifGroup _ first second =>
    first.looksTooFar || second.looksTooFar
  | .group _ _ _ body | .repeated _ _ _ body | .look .ahead _ body | .atomic body =>
    body.looksTooFar
  | .look (.behind width) _ body => lookbehindLimit ≤ width.least || body.looksTooFar

/-- What a stop of the reader means for the whole pattern. -/
def Stop.toError (written : Str) : Stop → PatternError
  | .fault cause position => .malformed cause (some (.at written position))
  | .repetitionTooLarge => .repetitionTooLarge
  | .tooManyDigits digits => .tooManyDigits digits

/-- Reads the written form of a pattern. -/
def read [Runtime] (written : Str) : Except PatternError Pattern :=
  if Runtime.isTooDeep written then .error .tooDeep
  else match (moveTo written >>= fun _ => readAlternatives (4 * written.length + 4) true false).run
      { length := written.length, rest := written } with
  | .error stop => .error (stop.toError written)
  | .ok (node, reading) =>
    if reading.modes.contains .ascii && reading.modes.contains .unicode then .error .clashingModes
    else if !reading.rest.isEmpty then
      .error (.malformed .unbalancedParenthesis (some (.at written reading.position)))
    else match reading.conditions.find? (reading.groups.length < ·.1) with
    | some (number, position) =>
      .error (.malformed (.invalidGroupReference number) (some (.at written position)))
    | none =>
      match node.fault? reading.modes with
      | some fault => .error (.malformed fault none)
      | none =>
        if node.looksTooFar then .error .lookbehindTooWide
        else .ok ⟨node, reading.modes, reading.names⟩

/-- A pattern that reading gives is what is read. -/
theorem read_eq_of_toOption [Runtime] {written : Str} {pattern : Pattern}
    (h : (read written).toOption = some pattern) : read written = .ok pattern := by
  cases eq : read written <;> simp_all [Except.toOption]

/-- A match found in a text. -/
structure Match where
  /-- The text that was searched. -/
  text : Text
  /-- Where the capturing groups began and ended. -/
  marks : Marks

/-- What the groups took in the match at a position, if there is one. No repetition makes more than
`rounds` optional rounds. -/
def marksAt (pattern : Pattern) (rounds : Nat) (here : Cursor) : Option Marks :=
  let outcome := pattern.node.run rounds false pattern.modes none here ⟨[], here⟩ Rest.accept
  outcome.memory?.map Memory.marks

/-- What the groups took in the match at a position or at the first position after it, given what
follows it. -/
def marksFrom (pattern : Pattern) (rounds : Nat) : Text → Cursor → Option Marks
  | [], here => pattern.marksAt rounds here
  | c :: rest, here =>
    match pattern.marksAt rounds here with
    | some marks => some marks
    | none => pattern.marksFrom rounds rest (here.step c rest)

/-- The leftmost match in a text. -/
def leftmost (pattern : Pattern) (text : Text) : Option Match :=
  let positions := text.length + 2
  (pattern.marksFrom (positions * positions) text (.start text)).map (⟨text, ·⟩)

/-- Whether the pattern matches somewhere in a text. -/
def occursIn (pattern : Pattern) (text : Text) : Bool := (pattern.leftmost text).isSome

/-- Why a search in a text cannot be answered: a group of the match ends before it begins. -/
def failure? (pattern : Pattern) (text : Text) : Option PatternError :=
  if (pattern.leftmost text).any (·.marks.areCrossed) then some .crossedGroup else none

/-- What a search in a text finds, if it can be answered. -/
def search (pattern : Pattern) (text : Text) : Except PatternError (Option Match) :=
  match pattern.failure? text with
  | some error => .error error
  | none => .ok (pattern.leftmost text)

/-- Whether the pattern has a group of that name. -/
def hasGroup (pattern : Pattern) (name : Text) : Bool := (pattern.names.lookup name).isSome

/-- The text that a named group took, if the pattern has it and it took part. -/
def Match.named? (found : Match) (pattern : Pattern) (name : Text) : Option Text := do
  let number ← pattern.names.lookup name
  let (first, last) ← found.marks.span? number
  return (found.text.drop first).take (last - first)

end Pattern

end TexLog
