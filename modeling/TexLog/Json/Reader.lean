import TexLog.Json.Basic
import TexLog.Runtime

/-!
# Reading JSON

Reading takes a text that holds one value and blanks around it. Besides the standard's values it
takes the names of the infinities and of what is no number. Half of a surrogate pair may be written
by its code. Of members with one name the last one counts. Reading stops at the first fault, which
is told with its line, column and index, and at values that lie deeper in others than the runtime
allows.

The readers of values take a fuel that exceeds the length of the text; every value takes a character
at least, so the fuel is never used up.
-/

namespace TexLog.Json

/-- What is wrong with a text that should be JSON. -/
inductive Fault
  /-- A byte-order mark precedes the value. -/
  | byteOrderMark
  /-- No value stands where one is due. -/
  | expectingValue
  /-- No name stands where a member is due. -/
  | expectingName
  /-- No colon follows the name of a member. -/
  | expectingColon
  /-- No comma follows an item or a member that is not the last. -/
  | expectingComma
  /-- Something follows the value. -/
  | extraData
  /-- A string does not end. -/
  | unterminatedString
  /-- A control character stands in a string. -/
  | controlCharacter
  /-- An escape without a meaning. -/
  | badEscape
  /-- A character code without its four digits. -/
  | badCodeEscape
  deriving DecidableEq, Repr

/-- The words for a fault. -/
def Fault.message : Fault → Text
  | byteOrderMark => "Unexpected UTF-8 BOM (decode using utf-8-sig)".toList
  | expectingValue => "Expecting value".toList
  | expectingName => "Expecting property name enclosed in double quotes".toList
  | expectingColon => "Expecting ':' delimiter".toList
  | expectingComma => "Expecting ',' delimiter".toList
  | extraData => "Extra data".toList
  | unterminatedString => "Unterminated string starting at".toList
  | controlCharacter => "Invalid control character at".toList
  | badEscape => "Invalid \\escape".toList
  | badCodeEscape => "Invalid \\uXXXX escape".toList

/-- A value with values in it. -/
inductive Container
  /-- An array. -/
  | array
  /-- An object. -/
  | object
  deriving DecidableEq, Repr

/-- The name of a kind of containers. -/
def Container.name : Container → Text
  | array => "array".toList
  | object => "object".toList

/-- Why reading stops. -/
inductive Stop
  /-- A fault, and what is left from where it lies. -/
  | fault (fault : Fault) (rest : Text)
  /-- A container that lies too deep in others. -/
  | tooDeep (container : Container)
  /-- An integer with too many digits. -/
  | tooManyDigits (digits : Nat)
  deriving DecidableEq, Repr

/-- Stops with a fault at the start of the given rest. -/
def stopAt {α : Type} (rest : Text) (fault : Fault) : Except Stop α :=
  .error (.fault fault rest)

/-- Whether a character may stand between values. -/
def isSpace (c : Char) : Bool := c = ' ' || c = '\t' || c = '\n' || c = '\r'

/-- Leaves out the blanks in front. -/
def skipSpace (text : Text) : Text := text.dropWhile isSpace

/-! ## Strings -/

/-- The character that a letter stands for after a backslash. -/
def escapedChar? : Char → Option Char
  | '"' => some '"'
  | '\\' => some '\\'
  | '/' => some '/'
  | 'b' => some '\x08'
  | 'f' => some '\x0c'
  | 'n' => some '\n'
  | 'r' => some '\r'
  | 't' => some '\t'
  | _ => none

/-- The number that four hexadecimal digits write. -/
def fourHex? (digits : Text) : Option Nat :=
  if digits.length = 4 ∧ digits.all Text.isHex then some (Text.numeral 16 digits)
  else none

/-- Whether a code begins a pair of codes for one character. -/
def isHighSurrogate (code : Nat) : Bool := 0xD800 ≤ code && code < 0xDC00

/-- Whether a code ends a pair of codes for one character. -/
def isLowSurrogate (code : Nat) : Bool := 0xDC00 ≤ code && code < 0xE000

/-- The symbol with a code. -/
def symbolOfCode (code : Nat) : Symbol :=
  if h : Symbol.firstHalf ≤ code ∧ code - Symbol.firstHalf < 0x800 then
    .half ⟨code - Symbol.firstHalf, h.2⟩
  else .char (Char.ofNat code)

/-- Reads a character that is written by its code, after the letter of its escape; at least one more
character must follow. Two codes in a row may make up one character. -/
def readCodeEscape (text : Text) : Except Stop (Symbol × Text) := do
  let some code := if (text.drop 4).isEmpty then none else fourHex? (text.take 4)
    | stopAt ('u' :: text) .badCodeEscape
  let rest := text.drop 4
  match isHighSurrogate code, rest with
  | true, '\\' :: 'u' :: second =>
    if (second.drop 4).isEmpty then return (symbolOfCode code, rest)
    let some low := fourHex? (second.take 4) | stopAt ('u' :: second) .badCodeEscape
    if isLowSurrogate low then
      let char := Char.ofNat (0x10000 + (code - 0xD800) * 0x400 + (low - 0xDC00))
      return (.char char, second.drop 4)
    else return (symbolOfCode code, rest)
  | _, _ => return (symbolOfCode code, rest)

/-- Reads the next character of a string, or nothing at its closing quote; `start` is the text from
the opening quote on. -/
def readSymbol (start text : Text) : Except Stop (Option Symbol × Text) :=
  match text with
  | [] | ['\\'] => .error (.fault .unterminatedString start)
  | '"' :: rest => .ok (none, rest)
  | '\\' :: 'u' :: rest => do
    let (symbol, rest) ← readCodeEscape rest
    return (some symbol, rest)
  | '\\' :: letter :: rest =>
    match escapedChar? letter with
    | some c => .ok (some (.char c), rest)
    | none => stopAt text .badEscape
  | c :: rest =>
    if c.toNat < 0x20 then stopAt text .controlCharacter else .ok (some (.char c), rest)

/-- Reads the symbols of a string up to its closing quote, after those read already, latest
first. -/
def readSymbols (start : Text) :
    (fuel : Nat) → (read : Str) → Text → Except Stop (Str × Text)
  | 0, _, _ => .error (.fault .unterminatedString start)
  | fuel + 1, read, text =>
    match readSymbol start text with
    | .ok (some symbol, rest) => readSymbols start fuel (symbol :: read) rest
    | .ok (none, rest) => .ok (read.reverse, rest)
    | .error stop => .error stop

/-- Reads a string after its opening quote. -/
def readString (fuel : Nat) (text : Text) : Except Stop (Str × Text) :=
  readSymbols ('"' :: text) fuel [] text

/-! ## Numbers -/

/-- The digits before the point: a single zero, or digits that begin with no zero. -/
def wholePart (text : Text) : Text :=
  match text with
  | '0' :: _ => ['0']
  | _ => text.takeWhile Char.isDigit

/-- The digits after a point and what is left; a point without digits is left alone. -/
def fractionPart (text : Text) : Text × Text :=
  match text with
  | '.' :: rest =>
    match rest.takeWhile Char.isDigit with
    | [] => ([], text)
    | digits => (digits, rest.drop digits.length)
  | _ => ([], text)

/-- A sign in front of digits: whether it is a minus sign, and what is left. -/
def signPart (text : Text) : Bool × Text :=
  match text with
  | '-' :: rest => (true, rest)
  | '+' :: rest => (false, rest)
  | _ => (false, text)

/-- An integer by its sign and size. -/
def signed (negative : Bool) (size : Nat) : Int := if negative then -size else size

/-- The power of ten and what is left; an exponent without digits is left alone. -/
def exponentPart (text : Text) : Option Int × Text :=
  match text with
  | [] => (none, text)
  | mark :: rest =>
    let (negative, unsigned) := signPart rest
    let digits := unsigned.takeWhile Char.isDigit
    if (mark = 'e' ∨ mark = 'E') ∧ digits ≠ [] then
      (some (signed negative (Text.numeral 10 digits)), unsigned.drop digits.length)
    else (none, text)

/-- Reads a number after its sign; `text` is what it begins, sign included. It is an integer if
neither a fraction nor a power of ten is written. -/
def readUnsigned (text : Text) (negative : Bool) (unsigned : Text) : Except Stop (Json × Text) := do
  let whole := wholePart unsigned
  if whole = [] then stopAt text .expectingValue
  let (fraction, rest) := fractionPart (unsigned.drop whole.length)
  let (power, rest) := exponentPart rest
  if fraction = [] ∧ power = none then
    if Text.maxDigits < whole.length then throw (.tooManyDigits whole.length)
    return (.integer (signed negative (Text.numeral 10 whole)), rest)
  else
    let digits := Text.numeral 10 (whole ++ fraction)
    return (.decimal ⟨negative, digits, power.getD 0 - fraction.length⟩, rest)

/-- Reads a number. -/
def readNumber (text : Text) : Except Stop (Json × Text) :=
  match text with
  | '-' :: rest => readUnsigned text true rest
  | _ => readUnsigned text false text

/-! ## Values -/

/-- The names that stand for values, with their values. -/
def constants : List (Text × Json) := [
  ("null".toList, null), ("true".toList, bool true), ("false".toList, bool false),
  ("NaN".toList, nan), ("Infinity".toList, infinite false), ("-Infinity".toList, infinite true)]

mutual

/-- Reads a value at the start of a text, in which containers may lie `room` deep. -/
def readValue : (fuel room : Nat) → Text → Except Stop (Json × Text)
  | 0, _, text => stopAt text .expectingValue
  | fuel + 1, room, text =>
    match text, room with
    | '"' :: rest, _ => do
      let (str, rest) ← readString fuel rest
      return (.string str, rest)
    | '[' :: _, 0 => .error (.tooDeep .array)
    | '[' :: rest, room + 1 =>
      match skipSpace rest with
      | ']' :: rest => .ok (.array [], rest)
      | rest => do
        let (items, rest) ← readItems fuel room rest
        return (.array items, rest)
    | '\x7b' :: _, 0 => .error (.tooDeep .object)
    | '\x7b' :: rest, room + 1 =>
      match skipSpace rest with
      | '\x7d' :: rest => .ok (.object [], rest)
      | rest => do
        let (members, rest) ← readMembers fuel room [] rest
        return (.object members, rest)
    | _, _ =>
      match constants.find? fun (name, _) => name.isPrefixOf text with
      | some (name, value) => .ok (value, text.drop name.length)
      | none => readNumber text

/-- Reads the items of an array up to its closing bracket. -/
def readItems : (fuel room : Nat) → Text → Except Stop (List Json × Text)
  | 0, _, text => stopAt text .expectingValue
  | fuel + 1, room, text => do
    let (item, rest) ← readValue fuel room text
    match skipSpace rest with
    | ']' :: rest => return ([item], rest)
    | ',' :: rest =>
      let (items, rest) ← readItems fuel room (skipSpace rest)
      return (item :: items, rest)
    | rest => stopAt rest .expectingComma

/-- Reads the members of an object up to its closing brace, after those read already. -/
def readMembers :
    (fuel room : Nat) → (read : List (Str × Json)) → Text → Except Stop (List (Str × Json) × Text)
  | 0, _, _, text => stopAt text .expectingName
  | fuel + 1, room, read, text => do
    let '"' :: rest := text | stopAt text .expectingName
    let (name, rest) ← readString fuel rest
    let ':' :: rest := skipSpace rest | stopAt (skipSpace rest) .expectingColon
    let (value, rest) ← readValue fuel room (skipSpace rest)
    let read := setMember name value read
    match skipSpace rest with
    | '\x7d' :: rest => return (read, rest)
    | ',' :: rest => readMembers fuel room read (skipSpace rest)
    | rest => stopAt rest .expectingComma

end

/-- A fault and its place in a text. -/
structure Malformed where
  /-- The fault. -/
  fault : Fault
  /-- Its line, counted from one. -/
  line : Nat
  /-- Its column, counted from one. -/
  column : Nat
  /-- How many characters lie before it. -/
  index : Nat
  deriving DecidableEq, Repr

/-- The words for a fault and its place. -/
def Malformed.message (malformed : Malformed) : Text :=
  malformed.fault.message ++ ": line ".toList ++ Text.ofNat malformed.line ++ " column ".toList ++
    Text.ofNat malformed.column ++ " (char ".toList ++ Text.ofNat malformed.index ++ [')']

/-- The fault that lies where the given rest of a text begins. -/
def Malformed.ofRest (text : Text) (fault : Fault) (rest : Text) : Malformed :=
  let index := text.length - rest.length
  let before := text.take index
  { fault, index
    line := before.count '\n' + 1
    column := (before.reverse.takeWhile (· != '\n')).length + 1 }

/-- Why a text is not taken for JSON. -/
inductive ReadError
  /-- Its syntax is at fault. -/
  | malformed (malformed : Malformed)
  /-- A container lies too deep in others. -/
  | tooDeep (container : Container)
  /-- An integer has too many digits to be read. -/
  | tooManyDigits (digits : Nat)
  deriving DecidableEq, Repr

/-- What a stop of the readers means for the whole text. -/
def Stop.toError (text : Text) : Stop → ReadError
  | .fault cause rest => .malformed (.ofRest text cause rest)
  | .tooDeep container => .tooDeep container
  | .tooManyDigits digits => .tooManyDigits digits

/-- Reads a text that holds one value. -/
def read [Runtime] (text : Text) : Except ReadError Json :=
  let value := do
    if text.head? = some '\ufeff' then stopAt text .byteOrderMark
    let (value, rest) ← readValue (2 * text.length + 2) Runtime.containerDepth (skipSpace text)
    if (skipSpace rest).isEmpty then return value else stopAt (skipSpace rest) .extraData
  value.mapError (Stop.toError text)

end TexLog.Json
