import TexLog.Pattern.Openings
import TexLog.Pattern.Syntax

/-!
# Reading patterns

Expressions are alternatives between bars; an alternative is a sequence of items, each with a
repetition if one follows; groups hold expressions.

The mutually recursive readers take a fuel that exceeds the number of tokens; every round of theirs
takes a token, so it is never used up.
-/

namespace TexLog.Pattern
variable [Runtime]

/-! ## Repetitions -/

/-- The bounds of repetitions lie below this number. -/
def repetitionLimit : Nat := 4294967295

/-- The number that a bound of a repetition writes; nothing written is no bound. -/
def readBound (digits : Text) : Read (Option Nat) := do
  if digits.isEmpty then return none
  if Text.maxDigits < digits.length then throw (.tooManyDigits digits.length)
  let bound := Text.numeral 10 digits
  if bound < repetitionLimit then return some bound else throw .repetitionTooLarge

/-- Reads the bounds of a repetition after its first character; nothing if an opening brace turns
out to stand for itself, in which case only it has been taken. -/
def readBounds? (c : Char) : Read (Option (Nat × Option Nat)) := do
  match c with
  | '?' => return some (0, some 1)
  | '*' => return some (0, none)
  | '+' => return some (1, none)
  | _ =>
    let here := (← get).rest
    if (← peek) = some (.char '\x7d') then return none
    let low ← takeAll Char.isDigit
    let high ← if ← accept ',' then takeAll Char.isDigit else pure low
    unless ← accept '\x7d' do
      moveTo here
      return none
    let least := (← readBound low).getD 0
    let most ← readBound high
    if most.any (· < least) then
      let length := (← get).length
      failFrom (length - here.length) .boundsReversed
    return some (least, most)

/-- Applies a repetition whose first character stands at `start` to the last of the items read so
far, latest first. -/
def applyRepetition (start : Nat) (least : Nat) (most : Option Nat) (items : List Node) :
    Read (List Node) := do
  match items with
  | [] | .anchor _ :: _ => failFrom start .nothingToRepeat
  | .repeated .. :: _ => failFrom start .multipleRepeat
  | item :: items =>
    let greed ←
      if ← accept '?' then pure Greed.lazy
      else if ← accept '+' then pure (Greed.possessive Runtime.goesBack)
      else pure Greed.greedy
    return .repeated greed least most item.unwrapped :: items

/-! ## Expressions -/

/-- Whether a character is left out in `verbose` mode. -/
def isLayout (c : Char) : Bool := c = ' ' || ('\t' ≤ c && c ≤ '\r')

mutual

/-- Reads alternatives up to a closing parenthesis or the end. At the top of a pattern the first of
them may set modes for all. -/
def readAlternatives (fuel : Nat) (top verbose : Bool) : Read Node :=
  match fuel with
  | 0 => failAt 0 .unexpectedEnd
  | fuel + 1 => do
    let first ← readItems fuel top verbose []
    if ← accept '|' then
      let modes := (← get).modes
      let verbose := if top then modes.contains .verbose else verbose
      return .ofAlternatives first (← readFurther fuel top verbose)
    else return first
termination_by structural fuel

/-- Reads the alternatives after the first. -/
def readFurther (fuel : Nat) (top verbose : Bool) : Read (List Node) :=
  match fuel with
  | 0 => failAt 0 .unexpectedEnd
  | fuel + 1 => do
    let first ← readItems fuel false verbose []
    if ← accept '|' then
      let modes := (← get).modes
      let verbose := if top then modes.contains .verbose else verbose
      return first :: (← readFurther fuel top verbose)
    else return [first]
termination_by structural fuel

/-- Reads items one after another, after those read already, latest first. -/
def readItems (fuel : Nat) (top verbose : Bool) (items : List Node) : Read Node :=
  match fuel with
  | 0 => failAt 0 .unexpectedEnd
  | fuel + 1 => do
    let start ← tell
    match ← peek with
    | none | some (.char '|') | some (.char ')') => return .ofItems items.reverse
    | some token =>
      let _ ← next
      match token with
      | .escape c => readItems fuel top verbose ((← readEscape c) :: items)
      | .half index | .escapedHalf index =>
        readItems fuel top verbose (.one (.literal (Symbol.half index).code) :: items)
      | .char c =>
        if verbose && isLayout c then readItems fuel top verbose items
        else if verbose && c = '#' then
          let _ ← skipPast '\n'
          readItems fuel top verbose items
        else match c with
        | '[' => readItems fuel top verbose ((← readSet start) :: items)
        | '*' | '+' | '?' | '\x7b' =>
          match ← readBounds? c with
          | some (least, most) =>
            readItems fuel top verbose (← applyRepetition start least most items)
          | none => readItems fuel top verbose (.one (.literal c.toNat) :: items)
        | '.' => readItems fuel top verbose (.one .any :: items)
        | '^' => readItems fuel top verbose (.anchor .lineStart :: items)
        | '$' => readItems fuel top verbose (.anchor .lineEnd :: items)
        | '(' =>
          let (node, verbose) ← readGroup fuel start (top && items.isEmpty) verbose
          readItems fuel top verbose (node.toList ++ items)
        | _ => readItems fuel top verbose (.one (.literal c.toNat) :: items)
termination_by structural fuel

/-- Reads a group after its opening parenthesis. The result has no node for comments and modes, and
says whether blanks are left out after it. -/
def readGroup (fuel : Nat) (start : Nat) (atStart verbose : Bool) : Read (Option Node × Bool) :=
  match fuel with
  | 0 => failAt 0 .unexpectedEnd
  | fuel + 1 => do
    match ← readOpening start atStart with
    | .complete node =>
      let modes := (← get).modes
      return (node, verbose || (node.isNone && atStart && modes.contains .verbose))
    | .capture name =>
      let number ← openGroup name
      let body ← readAlternatives fuel false verbose
      closeParenthesis start
      closeGroup number body
      return (some (.group (some number) [] [] body), verbose)
    | .plain on off =>
      let inner := (verbose || on.contains .verbose) && !off.contains .verbose
      let body ← readAlternatives fuel false inner
      closeParenthesis start
      return (some (.group none on off body), verbose)
    | .atomic =>
      let body ← readAlternatives fuel false verbose
      closeParenthesis start
      return (some (.atomic body), verbose)
    | .look behind positive =>
      let before := (← get).groupsBeforeLookbehind
      if behind && before.isNone then
        modify fun reading =>
          { reading with groupsBeforeLookbehind := some reading.groups.length }
      let body ← readAlternatives fuel false verbose
      if behind then modify ({ · with groupsBeforeLookbehind := before })
      closeParenthesis start
      let reading ← get
      let sight := if behind then .behind (reading.widthOf body) else .ahead
      return (some (.look sight positive body), verbose)
    | .condition number =>
      let yes ← readItems fuel false verbose []
      let no ←
        if ← accept '|' then
          let no ← readItems fuel false verbose []
          if (← peek) = some (.char '|') then failAt 0 .tooManyBranches
          pure no
        else pure .empty
      closeParenthesis start
      return (some (.ifGroup number yes no), verbose)
termination_by structural fuel

end

end TexLog.Pattern
