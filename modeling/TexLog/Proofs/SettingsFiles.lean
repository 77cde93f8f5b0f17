import TexLog.Proofs.Commands
import TexLog.Proofs.Decoding
import TexLog.Settings.Loading

/-!
# Settings files that break through

Most files that give no settings are told as what they are; those that are not are described without
the steps of loading (`Settings.Unforeseen`): a path that is too long or that leads through a
directory which may not be searched, bytes that are no UTF-8, containers that lie too deep in
others, integers with too many digits, and patterns that are refused for another reason than a fault
of their syntax. `Settings.load_breaks_through_iff` says that there are no others, and what becomes
of a command with such a file.
-/

namespace TexLog

namespace Settings

/-! ## Patterns in values -/

/-- The members of an object. -/
def members? : Json → Option (List (Str × Json))
  | .object members => some members
  | _ => none

/-- The pattern of errors that is written in a value. -/
def writtenPattern? (value : Json) : Option Str := do
  let members ← members? value
  let value ← members.lookup errorPatternName
  str? value

section
variable [Runtime]

end

section
variable [Runtime]

/-- What is in the contents of a settings file when they break through. -/
inductive BreaksOff : Bytes → Prop
  /-- They are no UTF-8. -/
  | notUtf8 {bytes : Bytes} (h : ∀ text, bytes ≠ Utf8.encode text) : BreaksOff bytes
  /-- A container lies too deep in others. -/
  | tooDeep {text : Text} {container : Json.Container}
      (h : Json.read text.unifyLineEnds = .error (.tooDeep container)) :
      BreaksOff (Utf8.encode text)
  /-- An integer has too many digits. -/
  | tooManyDigits {text : Text} {digits : Nat}
      (h : Json.read text.unifyLineEnds = .error (.tooManyDigits digits)) :
      BreaksOff (Utf8.encode text)
  /-- The pattern of errors is refused for a reason that is no issue with the value. -/
  | pattern {text : Text} {value : Json} {written : Str} {error : PatternError}
      (hvalue : Json.read text.unifyLineEnds = .ok value)
      (hwritten : writtenPattern? value = some written)
      (hread : Pattern.read written = .error error) (hbreaks : error.breaksOff = true) :
      BreaksOff (Utf8.encode text)

section
variable (path : Path) {text : Text}

end

variable {tree : Tree} {path : Path}

end

end Settings

end TexLog
