import TexLog.Pattern.Tokens
import TexLog.Runtime

/-!
# Escapes and sets in written patterns

What a backslash and the characters after it stand for, inside a set of characters and outside: a
class, a position, a character by its letter or its code, or a group. Sets list characters, ranges
and classes between brackets.
-/

namespace TexLog.Pattern
variable [Runtime]

/-! ## Escapes -/

/-- The control character that a letter stands for after a backslash. -/
def controlCode? : Char → Option Nat
  | 'a' => some 7
  | 'b' => some 8
  | 'f' => some 12
  | 'n' => some 10
  | 'r' => some 13
  | 't' => some 9
  | 'v' => some 11
  | '\\' => some 0x5C
  | _ => none

/-- The class that a letter stands for after a backslash. -/
def classItem? : Char → Option SetItem
  | 'd' => some (.ofClass .digit true)
  | 'D' => some (.ofClass .digit false)
  | 's' => some (.ofClass .blank true)
  | 'S' => some (.ofClass .blank false)
  | 'w' => some (.ofClass .word true)
  | 'W' => some (.ofClass .word false)
  | _ => none

/-- The position test that a letter stands for after a backslash. -/
def anchorOf? : Char → Option Anchor
  | 'A' => some .textStart
  | 'b' => some .wordEdge
  | 'B' => some .noWordEdge
  | 'Z' => some .textEnd
  | _ => none

/-- Reads exactly `count` hexadecimal digits after the letter of an escape. -/
def readHex (letter : Char) (count : Nat) : Read Nat := do
  let digits ← takeWhile Text.isHex count
  let escape := '\\' :: letter :: digits
  if digits.length < count then failAt escape.length (.incompleteEscape escape)
  let code := Text.numeral 16 digits
  if code < 0x110000 then return code else failAt escape.length (.badEscape escape)

/-- Reads what follows the letter of an escape that gives a character by its code or its name. -/
def readCode? (letter : Char) : Read (Option Nat) := do
  match letter with
  | 'x' => return some (← readHex letter 2)
  | 'u' => return some (← readHex letter 4)
  | 'U' => return some (← readHex letter 8)
  | 'N' =>
    unless ← accept '\x7b' do failAt 0 .missingBrace
    let name ← takeUntil '\x7d' "character name".toList
    let some text := name.text? | failAt 2 (.badEscape ['\\', letter])
    match Runtime.codeOfName? text with
    | some code => return some code
    | none => failAt (name.length + 4) (.undefinedCharacter name)
  | _ => return none

/-- A character that stands for itself after a backslash; letters are reserved. -/
def readPlainEscape (c : Char) : Read Nat :=
  if c.isAlpha || c.isDigit then failAt 2 (.badEscape ['\\', c]) else return c.toNat

/-- Reads the rest of an octal code that may not exceed one byte. -/
def checkOctal (digits : Text) : Read Nat :=
  if Text.numeral 8 digits ≤ 0o377 then return Text.numeral 8 digits
  else failAt (digits.length + 1) (.octalOutOfRange ('\\' :: digits))

/-- Reads an escape inside a set of characters. -/
def readSetEscape (c : Char) : Read SetItem := do
  if let some code := controlCode? c then return .char code
  if let some item := classItem? c then return item
  if let some code ← readCode? c then return .char code
  if Text.isOctal c then return .char (← checkOctal (c :: (← takeWhile Text.isOctal 2)))
  return .char (← readPlainEscape c)

/-- Refers back to a group, which must be closed and, in a look-behind, older than that. -/
def referTo (number back : Nat) : Read Unit := do
  let reading ← get
  if (reading.closedWidth? number).isNone then failAt back .openGroup
  if let some before := reading.groupsBeforeLookbehind then
    if before < number then failAt 0 .groupOfSameLookbehind

/-- Reads an escape of digits: an octal code of three digits, or the number of a group. -/
def readDigitEscape (c : Char) : Read Node := do
  let digits ← do
    match ← peek with
    | some (.char d) => if d.isDigit then let _ ← next; pure [c, d] else pure [c]
    | _ => pure [c]
  if let [d, e] := digits then
    if Text.isOctal d && Text.isOctal e then
      if let some (.char f) ← peek then
        if Text.isOctal f then
          let _ ← next
          return .one (.literal (← checkOctal [d, e, f]))
  let number := Text.numeral 10 digits
  if number ≤ (← get).groups.length then
    referTo number (digits.length + 1)
    return .backref number
  else failAt digits.length (.invalidGroupReference number)

/-- Reads an escape outside sets. -/
def readEscape (c : Char) : Read Node := do
  if let some anchor := anchorOf? c then return .anchor anchor
  if let some item := classItem? c then return .one (.set false [item])
  if let some code := controlCode? c then return .one (.literal code)
  if let some code ← readCode? c then return .one (.literal code)
  if c = '0' then return .one (.literal (Text.numeral 8 (c :: (← takeWhile Text.isOctal 2))))
  if c.isDigit then readDigitEscape c
  else return .one (.literal (← readPlainEscape c))

/-! ## Sets of characters -/

/-- Reads one end of a range, or a single item of a set. -/
def readSetToken : Token → Read SetItem
  | .char c => return .char c.toNat
  | .escape c => readSetEscape c
  | .half index | .escapedHalf index => return .char (Symbol.half index).code

/-- Reads a set of characters whose opening bracket stands at `start`. -/
def readSet (start : Nat) : Read Node := do
  let negated ← accept '^'
  let items ← loop ((← get).rest.length + 1) []
  match negated, items.eraseDups with
  | false, [.char code] => return .one (.literal code)
  | true, [.char code] => return .one (.other code)
  | _, items => return .one (.set negated items)
where
  loop : Nat → List SetItem → Read (List SetItem)
    | 0, _ => failFrom start .unterminatedSet
    | fuel + 1, items => do
      let some token ← next | failFrom start .unterminatedSet
      if token = .char ']' && !items.isEmpty then return items
      let item ← readSetToken token
      if ← accept '-' then
        let some other ← next | failFrom start .unterminatedSet
        if other = .char ']' then return items ++ [item, .char '-'.toNat]
        let last ← readSetToken other
        let bad := Fault.badRange token.str other.str
        match item, last with
        | .char lo, .char hi =>
          if hi < lo then failAt (token.str.length + 1 + other.str.length) bad
          else loop fuel (items ++ [.range lo hi])
        | _, _ => failAt (token.str.length + 1 + other.str.length) bad
      else loop fuel (items ++ [item])

end TexLog.Pattern
