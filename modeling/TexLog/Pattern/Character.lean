import TexLog.Pattern.Syntax
import TexLog.Text.Case
import TexLog.Text.Classes

/-!
# Characters in patterns

Which characters pass a test, and which tests tell one character from all others at once. Letter
case is ignored by comparing the forms that a character may take; in sets, code points above the
first plane are compared with the lower-case form of a character as they are written.
-/

namespace TexLog.Pattern

/-- Whether a character belongs to a class, in ASCII or in all of Unicode. -/
def CharClass.holds (ascii : Bool) : CharClass → Char → Bool
  | .digit, c => if ascii then c.isDigit else Text.isDigit c
  | .blank, c => if ascii then c = ' ' || ('\t' ≤ c && c ≤ '\r') else Text.isBlank c
  | .word, c => if ascii then c.isAlphanum || c = '_' else Text.isWord c

namespace Modes

/-- Whether letters that differ only in case match each other. -/
def ignoresCase (modes : Modes) : Bool := modes.contains .ignoreCase

/-- Whether characters are classified by ASCII alone. -/
def isAscii (modes : Modes) : Bool := modes.contains .ascii

/-- The code points that stand for a character in the given modes. -/
def variants (modes : Modes) (c : Char) : List Nat :=
  if modes.ignoresCase then
    if modes.isAscii then Text.asciiCaseVariants c.toNat else Text.caseVariants c.toNat
  else [c.toNat]

/-- The form of a code point by which two texts are compared in the given modes. -/
def normal (modes : Modes) (code : Nat) : Nat :=
  if modes.ignoresCase then
    if modes.isAscii then Text.asciiLowerCode code else Text.lowerCode code
  else code

/-- Whether a code point stands for other forms of a letter as well. -/
def folds (modes : Modes) (code : Nat) : Bool :=
  modes.ignoresCase && if modes.isAscii then Text.isAsciiCased code else Text.isCased code

/-- Whether one of the code points from the first to the last stands for other forms as well. -/
def foldsWithin (modes : Modes) (first last : Nat) : Bool :=
  modes.ignoresCase &&
    if modes.isAscii then Text.meetsAsciiCased first last else Text.meetsCased first last

/-- Whether a code point stands for letters that share a capital without being forms of one. -/
def foldsWidely (modes : Modes) (code : Nat) : Bool :=
  modes.folds code && !modes.isAscii && 1 < (Text.lowerGroup (Text.lowerCode code)).length

end Modes

/-- The last code point of the first plane. -/
def lastOfFirstPlane : Nat := 0xFFFF

namespace SetItem

/-- Whether an item of a set lists the character. -/
def holds (modes : Modes) (c : Char) : SetItem → Bool
  | .char code =>
    if code ≤ lastOfFirstPlane then (modes.variants c).contains code
    else modes.normal c.toNat == code
  | .range first last =>
    ((modes.variants c).any fun code => first ≤ code && code ≤ last) ||
      (modes.ignoresCase && lastOfFirstPlane < last &&
        let capital := Text.upperCode (modes.normal c.toNat)
        first ≤ capital && capital ≤ last)
  | .ofClass charClass inside => charClass.holds modes.isAscii c == inside

/-- Whether an item makes its set one that looks for several forms of a letter. -/
def folds (modes : Modes) : SetItem → Bool
  | .char code => modes.folds code || (modes.ignoresCase && lastOfFirstPlane < code)
  | .range first last =>
    modes.foldsWithin first last || (modes.ignoresCase && lastOfFirstPlane < last)
  | .ofClass .. => false

end SetItem

namespace CharTest

/-- Whether a character passes a test. -/
def holds (modes : Modes) (c : Char) : CharTest → Bool
  | .literal code => (modes.variants c).contains code
  | .other code => !(modes.variants c).contains code
  | .any => c != '\n' || modes.contains .dotAll
  | .set negated items => items.any (·.holds modes c) != negated

/-- Whether a repetition of the test goes over the text one character after the other, noting each,
because it looks for several forms of a letter in a set. -/
def isStepwise (modes : Modes) : CharTest → Bool
  | .literal code | .other code => modes.foldsWidely code
  | .any => false
  | .set _ items => items.any (·.folds modes)

/-- The code point that the test asks for, if it is a single one. -/
def code? (modes : Modes) : CharTest → Option Nat
  | .literal code => if modes.folds code then none else some code
  | _ => none

/-- Whether an alternative that begins with the test is passed over when the test fails. -/
def isSelective (modes : Modes) : CharTest → Bool
  | .literal code => !modes.folds code
  | .set _ items => !items.any (·.folds modes)
  | .other _ | .any => false

end CharTest

end TexLog.Pattern
