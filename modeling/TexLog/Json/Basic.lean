import TexLog.Text.Notation

/-!
# JSON

The numbers and the values of JSON, and how a value is printed.
-/

/-! ## Decimal fractions

Numbers written with a decimal point or an exponent stand for the nearest binary number of double
precision: 53 binary digits, of which the last one counts at least `2 ^ -1074`, and a size below
`2 ^ 1024`. A number half-way between two goes to the one whose last digit is even.
-/

namespace TexLog

/-- A number written with a decimal point or an exponent: `± digits · 10 ^ exponent`. -/
structure Decimal where
  /-- Whether a minus sign precedes it. -/
  negative : Bool
  /-- All its digits, read as one natural number. -/
  digits : Nat
  /-- The power of ten of its last digit. -/
  exponent : Int
  deriving DecidableEq, Repr

namespace Decimal

/-- The natural number nearest to a quotient; half-way between two, the even one. -/
def divNearest (numerator denominator : Nat) : Nat :=
  let quotient := numerator / denominator
  let double := 2 * (numerator % denominator)
  if double < denominator ∨ (double = denominator ∧ quotient % 2 = 0) then quotient
  else quotient + 1

/-- The nearest binary number. -/
inductive Nearest
  /-- It is too large. -/
  | infinite
  /-- It is no integer. -/
  | fraction
  /-- It is an integer. -/
  | integer (value : Int)
  deriving DecidableEq, Repr

/-- A number times the power of two with the given exponent, if that is not negative. -/
def shiftUp (n : Nat) (exponent : Int) : Nat := n <<< exponent.toNat

/-- The exponent of the last binary digit that is kept of a positive quotient. -/
def lastExponent (numerator denominator : Nat) : Int :=
  let guess : Int := numerator.log2 - denominator.log2
  let reached := shiftUp denominator guess ≤ shiftUp numerator (-guess)
  max (-1074) ((if reached then guess else guess - 1) - 52)

/-- The binary number nearest to a positive quotient, with a sign. -/
def nearestQuotient (negative : Bool) (numerator denominator : Nat) : Nearest :=
  let last := lastExponent numerator denominator
  let significand := divNearest (shiftUp numerator (-last)) (shiftUp denominator last)
  let size := shiftUp significand last
  let unit := shiftUp 1 (-last)
  if shiftUp 1 1024 ≤ size then .infinite
  else if size % unit ≠ 0 then .fraction
  else
    let value : Int := (size / unit : Nat)
    .integer (if negative then -value else value)

/-- The power of ten that exceeds every finite binary number. -/
def largePower : Int := 310

/-- The power of ten with the given exponent, if that is not negative. -/
def tenTo (exponent : Int) : Nat := Nat.pow 10 exponent.toNat

/-- The binary number nearest to a decimal fraction. -/
def nearest (decimal : Decimal) : Nearest :=
  let ⟨negative, digits, exponent⟩ := decimal
  let places : Int := (Nat.toDigits 10 digits).length
  if digits = 0 then .integer 0
  else if largePower < places + exponent then .infinite
  else if places + exponent < -2 * largePower then .integer 0
  else nearestQuotient negative (digits * tenTo exponent) (tenTo (-exponent))

end Decimal

end TexLog

/-! ## JSON values

Values of JSON with numbers as they are written: an integer of any size, or a decimal fraction or
power that stands for the nearest binary number of double precision. Two names for what no JSON
number can be, an infinity and no number at all, are values too. Strings, and the names of members,
may have halves of surrogate pairs. `Json.print` writes a value on several lines, one item or member
a line; halves of pairs are written by their codes.
-/

namespace TexLog

/-- A JSON value. -/
inductive Json
  /-- The null. -/
  | null
  /-- A truth value. -/
  | bool (value : Bool)
  /-- An integer. -/
  | integer (value : Int)
  /-- A number with a decimal point or an exponent. -/
  | decimal (value : Decimal)
  /-- An infinite number. -/
  | infinite (negative : Bool)
  /-- What is no number. -/
  | nan
  /-- A string. -/
  | string (value : Str)
  /-- An array. -/
  | array (items : List Json)
  /-- An object: its members by name, each name once. -/
  | object (members : List (Str × Json))

namespace Json

/-- The members with one set to a value: in its place if there is one of that name, else last. -/
def setMember (name : Str) (value : Json) : List (Str × Json) → List (Str × Json)
  | [] => [(name, value)]
  | (other, old) :: rest =>
    if other = name then (other, value) :: rest else (other, old) :: setMember name value rest

/-- The members with several set one after another. -/
def setMembers (members updates : List (Str × Json)) : List (Str × Json) :=
  updates.foldl (fun members (name, value) => setMember name value members) members

/-- Whether a value is the null. -/
def isNull : Json → Bool
  | null => true
  | _ => false

/-! ## Printing -/

/-- A character inside a printed string. -/
def printedChar (c : Char) : Text :=
  if c = '"' then ['\\', '"']
  else if c = '\\' then ['\\', '\\']
  else if c = '\n' then ['\\', 'n']
  else if c = '\r' then ['\\', 'r']
  else if c = '\t' then ['\\', 't']
  else if c = '\x08' then ['\\', 'b']
  else if c = '\x0c' then ['\\', 'f']
  else if c.toNat < 0x20 then '\\' :: 'u' :: Text.hex 4 c.toNat
  else [c]

/-- A symbol inside a printed string. -/
def printedSymbol : Symbol → Text
  | .char c => printedChar c
  | .half index => Symbol.escapedHalf index

/-- A printed string. -/
def printString (str : Str) : Text := '"' :: str.flatMap printedSymbol ++ ['"']

/-- A line feed and the blanks that begin a line at some depth. -/
def newLine (indent depth : Nat) : Text := '\n' :: List.replicate (indent * depth) ' '

mutual

/-- Prints a value that stands at some depth, with `indent` blanks for every step of depth. -/
def print (indent depth : Nat) : Json → Text
  | null => "null".toList
  | bool true => "true".toList
  | bool false => "false".toList
  | integer n => Text.ofInt n
  | decimal ⟨negative, digits, exponent⟩ =>
    (if negative then ['-'] else []) ++ Text.ofNat digits ++ 'e' :: Text.ofInt exponent
  | infinite negative => (if negative then ['-'] else []) ++ "Infinity".toList
  | nan => "NaN".toList
  | string str => printString str
  | array [] => "[]".toList
  | array (item :: items) =>
    '[' :: newLine indent (depth + 1) ++ print indent (depth + 1) item ++
      printItems indent (depth + 1) items ++ newLine indent depth ++ [']']
  | object [] => "\x7b\x7d".toList
  | object ((name, value) :: members) =>
    '\x7b' :: newLine indent (depth + 1) ++ printMember indent (depth + 1) name value ++
      printMembers indent (depth + 1) members ++ newLine indent depth ++ ['\x7d']

/-- Prints the items after the first. -/
def printItems (indent depth : Nat) : List Json → Text
  | [] => []
  | item :: items =>
    ',' :: newLine indent depth ++ print indent depth item ++ printItems indent depth items

/-- Prints a member of an object. -/
def printMember (indent depth : Nat) (name : Str) (value : Json) : Text :=
  printString name ++ ':' :: ' ' :: print indent depth value

/-- Prints the members after the first. -/
def printMembers (indent depth : Nat) : List (Str × Json) → Text
  | [] => []
  | (name, value) :: members =>
    ',' :: newLine indent depth ++ printMember indent depth name value ++
      printMembers indent depth members

end

end Json

end TexLog
