/-!
# Texts

A text is the list of its characters. Lengths, concatenation and prefixes of texts are therefore
those of lists, and a width counts characters, not bytes. Strings that come from elsewhere, as names
of files or from JSON, may have halves of surrogate pairs that stand alone; such a half is no
character, and a string that has one is no text.
-/

namespace TexLog

/-- A text: its characters in order. -/
abbrev Text := List Char

namespace Text

/-- The decimal digits of a natural number, without leading zeros. -/
def ofNat (n : Nat) : Text := Nat.toDigits 10 n

/-- The decimal digits of an integer, after a minus sign if it is negative. -/
def ofInt : Int → Text
  | .ofNat n => ofNat n
  | .negSucc n => '-' :: ofNat (n + 1)

/-- The lower-case hexadecimal digits of a number, filled up with zeros to the given width. -/
def hex (width n : Nat) : Text :=
  let digits := Nat.toDigits 16 n
  List.replicate (width - digits.length) '0' ++ digits

/-- The texts one after another with `between` in between. -/
def joinWith (between : Text) (texts : List Text) : Text := between.intercalate texts

end Text

/-- A code point: a character, or half of a surrogate pair that stands alone. -/
inductive Symbol
  /-- A character. -/
  | char (c : Char)
  /-- The half of a pair whose code is so much above the first. -/
  | half (index : Fin 0x800)
  deriving DecidableEq, Repr

namespace Symbol

/-- The code of the first half of a pair. -/
def firstHalf : Nat := 0xD800

/-- The code of a symbol. -/
def code : Symbol → Nat
  | char c => c.toNat
  | half index => firstHalf + index

/-- Whether a symbol is half of a pair. -/
def isHalf : Symbol → Bool
  | char _ => false
  | half _ => true

/-- The character that a symbol is. -/
def char? : Symbol → Option Char
  | char c => some c
  | half _ => none

/-- The half of a pair as it is written by its code. -/
def escapedHalf (index : Fin 0x800) : Text := '\\' :: 'u' :: Text.hex 4 (half index).code

end Symbol

/-- A string: its code points in order. -/
abbrev Str := List Symbol

namespace Str

/-- A text as a string. -/
def ofText (text : Text) : Str := text.map .char

instance : Coe Text Str := ⟨ofText⟩

/-- The string that a literal stands for. -/
def of (literal : String) : Str := ofText literal.toList

/-- The text that a string is, if it has no halves of pairs. -/
def text? (str : Str) : Option Text := str.mapM Symbol.char?

/-- Whether a string is a text. -/
def isText (str : Str) : Bool := str.all (!·.isHalf)

/-- A string as it is shown where halves of pairs cannot be: each is written by its code. -/
def escaped (str : Str) : Text :=
  str.flatMap fun
    | .char c => [c]
    | .half index => Symbol.escapedHalf index

@[simp] theorem text?_ofText (text : Text) : text? (ofText text) = some text := by
  induction text with
  | nil => rfl
  | cons c rest ih => simp_all [ofText, text?, Symbol.char?]

/-- Different texts are different strings. -/
theorem ofText_injective {a b : Text} (h : ofText a = ofText b) : a = b := by
  simpa using congrArg text? h

@[simp] theorem ofText_append (a b : Text) : ofText (a ++ b) = ofText a ++ ofText b :=
  List.map_append

@[simp] theorem length_ofText (text : Text) : (ofText text).length = text.length :=
  List.length_map _

@[simp] theorem ofText_eq_nil_iff (text : Text) : ofText text = [] ↔ text = [] :=
  List.map_eq_nil_iff

theorem take_ofText (n : Nat) (text : Text) : (ofText text).take n = ofText (text.take n) :=
  List.map_take.symm

end Str

end TexLog
