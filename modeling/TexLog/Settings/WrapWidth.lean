import TexLog.Json.Basic
import TexLog.Text.Notation

/-!
# Wrap widths as values

Which JSON values stand for a wrap width. Besides positive integers these are the value true,
decimal fractions that stand for integers, and strings that write integers. A string is read as it
is if it writes an integer plainly; else space around it, a plus sign and zeros in front, single
underscores and zeros after a decimal point are left out first.
-/

namespace TexLog.WrapWidth

/-- Why a value is no wrap width. -/
inductive Fault
  /-- Values of its sort stand for no numbers. -/
  | notANumber
  /-- It is a string that is no text. -/
  | notText
  /-- It is a string that writes no integer. -/
  | unreadable
  /-- It is too long or too large to be read. -/
  | tooLarge
  /-- It is a fraction. -/
  | fractional
  /-- It is no finite number. -/
  | notFinite
  /-- It is an integer below one. -/
  | belowOne
  deriving DecidableEq, Repr

/-- The words for a fault. -/
def Fault.message : Fault → Text
  | notANumber => "Input should be a valid integer".toList
  | notText =>
    "Input should be a valid string, unable to parse raw data as a unicode string".toList
  | unreadable =>
    "Input should be a valid integer, unable to parse string as an integer".toList
  | tooLarge =>
    "Unable to parse input string as an integer, exceeded maximum size".toList
  | fractional =>
    "Input should be a valid integer, got a number with a fractional part".toList
  | notFinite => "Input should be a finite number".toList
  | belowOne => "Input should be greater than or equal to 1".toList

/-! ## Strings -/

/-- Whether a text begins with a minus sign, and what comes after that. -/
def signPart : Text → Bool × Text
  | '-' :: digits => (true, digits)
  | digits => (false, digits)

/-- Whether a text begins with more digits than are read. -/
def isTooLong (text : Text) : Bool :=
  let digits := (signPart text).2.takeWhile Char.isDigit
  digits.head? != some '0' && Text.maxDigits < digits.length

/-- The integer that a text writes plainly: digits without a zero in front, or a single zero, after
a minus sign if it is negative. -/
def readPlain? (text : Text) : Option Int :=
  let (negative, digits) := signPart text
  let isNumeral := digits.all Char.isDigit && (digits.head? != some '0' || digits.length = 1)
  if isNumeral && !digits.isEmpty && digits.length ≤ Text.maxDigits then
    let size := Text.numeral 10 digits
    some (if negative then -size else size)
  else none

/-- Goes over zeros and the underscores among them up to another digit or a minus sign, or up to the
last zero in front of a point or the end; `last` is the character before. -/
def skipZeros (last : Char) : Text → Option Text
  | [] => some [last]
  | c :: rest =>
    if c = '0' || c = '_' then skipZeros c rest
    else if c.isDigit || c = '-' then some (c :: rest)
    else if c = '.' then some (last :: c :: rest)
    else none

/-- Leaves out the zeros in front of a number. -/
def dropLeadingZeros : Text → Option Text
  | [] => none
  | c :: rest =>
    if c = '0' then skipZeros c rest
    else if c.isDigit || c = '-' then some (c :: rest)
    else none

/-- Leaves out a point with nothing but zeros after it, of which there must be one at least. -/
def dropDecimalZeros (text : Text) : Text :=
  match text.span (· ≠ '.') with
  | (whole, _ :: zeros) => if zeros ≠ [] ∧ zeros.all (· = '0') then whole else text
  | _ => text

/-- Whether two underscores stand side by side. -/
def hasDoubleUnderscore : Text → Bool
  | '_' :: '_' :: _ => true
  | _ :: rest => hasDoubleUnderscore rest
  | [] => false

/-- Leaves out underscores, none of which may stand first, last or beside another. -/
def dropUnderscores (text : Text) : Option Text :=
  if text.head? = some '_' ∨ text.getLast? = some '_' ∨ hasDoubleUnderscore text then none
  else some (text.filter (· ≠ '_'))

/-- Leaves out what may surround the digits of an integer and stand among them. -/
def clean (text : Text) : Option Text := do
  let written := Text.stripWhile Text.isSpace text
  let unsigned ← match written with
    | '+' :: '-' :: _ => none
    | '+' :: rest => some rest
    | rest => some rest
  dropUnderscores (dropDecimalZeros (← dropLeadingZeros unsigned))

/-- The integer that a string stands for. -/
def integerOfText (text : Text) : Except Fault Int :=
  if isTooLong text then .error .tooLarge
  else match readPlain? text <|> (clean text).bind readPlain? with
    | some n => .ok n
    | none => .error .unreadable

/-! ## Values -/

/-- Integers that decimal fractions stand for are smaller than this. -/
def integerLimit : Nat := 0x8000000000000000

/-- The integer that a decimal fraction stands for. -/
def integerOfDecimal (decimal : Decimal) : Except Fault Int :=
  match decimal.nearest with
  | .infinite => .error .notFinite
  | .fraction => .error .fractional
  | .integer n => if n.natAbs < integerLimit then .ok n else .error .tooLarge

/-- The integer that a value stands for. -/
def integer : Json → Except Fault Int
  | .integer n => .ok n
  | .bool b => .ok (if b then 1 else 0)
  | .decimal decimal => integerOfDecimal decimal
  | .infinite _ | .nan => .error .notFinite
  | .string str =>
    match str.text? with
    | some text => integerOfText text
    | none => .error .notText
  | .null | .array _ | .object _ => .error .notANumber

/-- The wrap width that a value stands for. -/
def ofJson (value : Json) : Except Fault { width : Nat // 0 < width } := do
  match ← integer value with
  | .ofNat (n + 1) => return ⟨n + 1, n.succ_pos⟩
  | _ => throw .belowOne

/-- An integer stands for itself. -/
@[simp] theorem ofJson_integer {width : Nat} (h : 0 < width) :
    ofJson (.integer width) = .ok ⟨width, h⟩ := by
  cases width with
  | zero => omega
  | succ n => rfl

end TexLog.WrapWidth
