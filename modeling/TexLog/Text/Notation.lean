import TexLog.Text.Basic
import TexLog.Text.Classes

/-!
# How numbers and strings are written

Numerals and integers as they are read, and strings as they are shown inside messages.
-/

/-! ## Numerals

Natural numbers written in a fixed base with the digits `0` to `9` and the letters that follow them.
Readers of integers refuse numerals of more than 4300 decimal digits.
-/

namespace TexLog.Text

/-- Whether a character is a digit of the octal system. -/
def isOctal (c : Char) : Bool := '0' ≤ c && c ≤ '7'

/-- Whether a character is a digit of the hexadecimal system. -/
def isHex (c : Char) : Bool := c.isDigit || ('a' ≤ c && c ≤ 'f') || ('A' ≤ c && c ≤ 'F')

/-- The value of a hexadecimal digit. -/
def hexValue (c : Char) : Nat :=
  if c.isDigit then c.toNat - '0'.toNat
  else if 'a' ≤ c then c.toNat - 'a'.toNat + 10
  else c.toNat - 'A'.toNat + 10

/-- The number with the given digits in the given base. -/
def numeral (base : Nat) (digits : Text) : Nat :=
  digits.foldl (fun n c => base * n + hexValue c) 0

/-- How many decimal digits of an integer are read at most. -/
def maxDigits : Nat := 4300

/-- The words for an integer that has too many digits to be read. -/
def tooManyDigitsMessage (digits : Nat) : Text :=
  "Exceeds the limit (4300 digits) for integer string conversion: value has ".toList ++
    ofNat digits ++ " digits; use sys.set_int_max_str_digits() to increase the limit".toList

end TexLog.Text

/-! ## Written integers

An integer is written as decimal digits of any script, with single underscores between digits, after
an optional sign and with space around it. More than `maxDigits` digits are not read.
-/

namespace TexLog.Text

/-- The digits of a number with single underscores between them. -/
def digitGroups? : Text → Option (List Nat)
  | [] => none
  | [c] => (digitValue? c).map ([·])
  | c :: '_' :: rest => do return (← digitValue? c) :: (← digitGroups? rest)
  | c :: rest => do return (← digitValue? c) :: (← digitGroups? rest)

/-- The number with the given digits, the most significant first. -/
def ofDigits (digits : List Nat) : Nat := digits.foldl (fun n d => 10 * n + d) 0

/-- The number that digits and underscores write, if they are not too many. -/
def readNat? (text : Text) : Option Nat := do
  let digits ← digitGroups? text
  if digits.length ≤ maxDigits then some (ofDigits digits) else none

/-- The integer that a text writes. -/
def readInt? (text : Text) : Option Int :=
  match stripWhile isSpace text with
  | '-' :: digits => (readNat? digits).map fun n => -(n : Int)
  | '+' :: digits => (readNat? digits).map Int.ofNat
  | digits => (readNat? digits).map Int.ofNat

end TexLog.Text

/-! ## Quoted texts

How a text is shown inside a message: between quotes, on one line, with nothing invisible left. The
quotes are single ones, unless the text holds a single quote and no double quote. A backslash and
the quote in use are written after a backslash, tabs and line breaks by their letters, and any other
character that is not printable by its code in two, four or eight hexadecimal digits.
-/

namespace TexLog.Text

/-- One character as it stands between the given quotes. -/
def quotedChar (quote c : Char) : Text :=
  if c = quote ∨ c = '\\' then ['\\', c]
  else if c = '\t' then ['\\', 't']
  else if c = '\n' then ['\\', 'n']
  else if c = '\r' then ['\\', 'r']
  else if isPrintable c then [c]
  else if c.toNat < 0x100 then '\\' :: 'x' :: hex 2 c.toNat
  else if c.toNat < 0x10000 then '\\' :: 'u' :: hex 4 c.toNat
  else '\\' :: 'U' :: hex 8 c.toNat

/-- The text between quotes. -/
def quoted (text : Text) : Text :=
  let quote := if text.contains '\'' && !text.contains '"' then '"' else '\''
  quote :: text.flatMap (quotedChar quote) ++ [quote]

end TexLog.Text

namespace TexLog.Str

/-- The string between quotes; halves of pairs are not printable. -/
def quoted (str : Str) : Text :=
  let text := str.filterMap Symbol.char?
  let quote := if text.contains '\'' && !text.contains '"' then '"' else '\''
  quote :: str.flatMap (fun
    | .char c => Text.quotedChar quote c
    | .half index => Symbol.escapedHalf index) ++ [quote]

end TexLog.Str
