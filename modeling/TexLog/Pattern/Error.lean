import TexLog.Text.Notation

/-!
# Faults of written patterns

Why a written pattern is refused. A `Fault` is the cause alone; a `PatternError` adds the place in
the pattern, where there is one, and tells the few causes apart that are no faults of the syntax.
`PatternError.message` words them all.
-/

namespace TexLog.Pattern

/-- What is wrong with the syntax of a pattern. -/
inductive Fault
  /-- The pattern ends in a lone backslash. -/
  | endsInEscape
  /-- An escape without a meaning. -/
  | badEscape (escape : Text)
  /-- A character code with too few digits. -/
  | incompleteEscape (escape : Text)
  /-- An octal character code above one byte. -/
  | octalOutOfRange (escape : Text)
  /-- A character name that is not between braces. -/
  | missingBrace
  /-- A character name that names no character. -/
  | undefinedCharacter (name : Str)
  /-- Nothing stands where a name is due. -/
  | missingName (what : Text)
  /-- A name without its terminator. -/
  | unterminatedName (terminator : Char)
  /-- A group name that is no identifier. -/
  | badGroupName (name : Str)
  /-- A reference to a name that no group has. -/
  | unknownGroupName (name : Text)
  /-- Two groups of one name. -/
  | redefinedGroup (name : Text) (number first : Nat)
  /-- A reference to group zero. -/
  | badGroupNumber
  /-- A reference to a group that the pattern does not have. -/
  | invalidGroupReference (number : Nat)
  /-- A reference to a group from inside it. -/
  | openGroup
  /-- A reference, in a look-behind, to a group of the same look-behind. -/
  | groupOfSameLookbehind
  /-- A condition with more than two branches. -/
  | tooManyBranches
  /-- A set of characters without its closing bracket. -/
  | unterminatedSet
  /-- A range whose ends are no characters or in the wrong order. -/
  | badRange (first last : Str)
  /-- A repetition with its bounds in the wrong order. -/
  | boundsReversed
  /-- A repetition of nothing. -/
  | nothingToRepeat
  /-- A repetition of a repetition. -/
  | multipleRepeat
  /-- The pattern ends inside the opening of a group. -/
  | unexpectedEnd
  /-- An opening of a group that has no meaning. -/
  | unknownExtension (opening : Str)
  /-- A comment without its closing parenthesis. -/
  | unterminatedComment
  /-- A group without its closing parenthesis. -/
  | unterminatedGroup
  /-- A closing parenthesis without its group. -/
  | unbalancedParenthesis
  /-- Modes for the whole pattern that are not at its start. -/
  | modesNotAtStart
  /-- A letter that stands for no mode. -/
  | unknownMode
  /-- A list of modes ends too early; `expected` says what may follow. -/
  | modesCutShort (expected : Text)
  /-- The mode for locales, which is not for texts. -/
  | localeMode
  /-- Two repertoires at once. -/
  | incompatibleModes
  /-- A repertoire is dismissed, but only another can take its place. -/
  | repertoireDismissed
  /-- A mode for whole patterns is asked for in a group. -/
  | wholeModeOn
  /-- A mode for whole patterns is dismissed in a group. -/
  | wholeModeOff
  /-- A mode is asked for and dismissed at once. -/
  | modeOnAndOff
  /-- A look-behind whose width is not fixed. -/
  | lookbehindWidth
  /-- A repetition in a pattern that asked to have none; `kind` names it. -/
  | repetitionInTemplate (kind : Text)
  deriving DecidableEq, Repr

/-- The words for a fault. -/
def Fault.message : Fault → Str
  | endsInEscape => "bad escape (end of pattern)".toList
  | badEscape escape => "bad escape ".toList ++ escape
  | incompleteEscape escape => "incomplete escape ".toList ++ escape
  | octalOutOfRange escape =>
    "octal escape value ".toList ++ escape ++ " outside of range 0-0o377".toList
  | missingBrace => "missing \x7b".toList
  | undefinedCharacter name => "undefined character name ".toList ++ name.quoted
  | missingName what => "missing ".toList ++ what
  | unterminatedName terminator => "missing ".toList ++ terminator :: ", unterminated name".toList
  | badGroupName name => "bad character in group name ".toList ++ name.quoted
  | unknownGroupName name => "unknown group name ".toList ++ name.quoted
  | redefinedGroup name number first =>
    "redefinition of group name ".toList ++ name.quoted ++ " as group ".toList ++
      Text.ofNat number ++ "; was group ".toList ++ Text.ofNat first
  | badGroupNumber => "bad group number".toList
  | invalidGroupReference number => "invalid group reference ".toList ++ Text.ofNat number
  | openGroup => "cannot refer to an open group".toList
  | groupOfSameLookbehind =>
    "cannot refer to group defined in the same lookbehind subpattern".toList
  | tooManyBranches => "conditional backref with more than two branches".toList
  | unterminatedSet => "unterminated character set".toList
  | badRange first last => Str.of "bad character range " ++ first ++ Str.of "-" ++ last
  | boundsReversed => "min repeat greater than max repeat".toList
  | nothingToRepeat => "nothing to repeat".toList
  | multipleRepeat => "multiple repeat".toList
  | unexpectedEnd => "unexpected end of pattern".toList
  | unknownExtension opening => Str.of "unknown extension ?" ++ opening
  | unterminatedComment => "missing ), unterminated comment".toList
  | unterminatedGroup => "missing ), unterminated subpattern".toList
  | unbalancedParenthesis => "unbalanced parenthesis".toList
  | modesNotAtStart => "global flags not at the start of the expression".toList
  | unknownMode => "unknown flag".toList
  | modesCutShort expected => "missing ".toList ++ expected
  | localeMode => "bad inline flags: cannot use 'L' flag with a str pattern".toList
  | incompatibleModes => "bad inline flags: flags 'a', 'u' and 'L' are incompatible".toList
  | repertoireDismissed => "bad inline flags: cannot turn off flags 'a', 'u' and 'L'".toList
  | wholeModeOn => "bad inline flags: cannot turn on global flag".toList
  | wholeModeOff => "bad inline flags: cannot turn off global flag".toList
  | modeOnAndOff => "bad inline flags: flag turned on and off".toList
  | lookbehindWidth => "look-behind requires fixed-width pattern".toList
  | repetitionInTemplate kind => "internal: unsupported template operator ".toList ++ kind

/-- A place in a written pattern. -/
structure Place where
  /-- How many characters lie before it. -/
  position : Nat
  /-- Its line and column, counted from one, if the pattern has more than one line. -/
  lineColumn : Option (Nat × Nat)
  deriving DecidableEq, Repr

/-- The place after so many characters of a pattern. -/
def Place.at (pattern : Str) (position : Nat) : Place where
  position := position
  lineColumn :=
    let lineFeed := Symbol.char '\n'
    if pattern.contains lineFeed then
      let before := pattern.take position
      some (before.count lineFeed + 1, (before.reverse.takeWhile (· != lineFeed)).length + 1)
    else none

/-- The words for a place. -/
def Place.message (place : Place) : Text :=
  " at position ".toList ++ Text.ofNat place.position ++
    match place.lineColumn with
    | some (line, column) =>
      " (line ".toList ++ Text.ofNat line ++ ", column ".toList ++ Text.ofNat column ++ [')']
    | none => []

end TexLog.Pattern

namespace TexLog

open Pattern in
/-- Why a written pattern cannot be used. -/
inductive PatternError
  /-- Its syntax is at fault, at a place if the fault has one. -/
  | malformed (fault : Fault) (place : Option Place)
  /-- A bound of a repetition is too large. -/
  | repetitionTooLarge
  /-- A bound of a repetition has too many digits to be read. -/
  | tooManyDigits (digits : Nat)
  /-- The whole pattern asks for two repertoires. -/
  | clashingModes
  /-- Its groups lie too deep in each other. -/
  | tooDeep
  /-- A look-behind is too wide. -/
  | lookbehindTooWide
  /-- A group of a match that was found ends before it begins. -/
  | crossedGroup
  deriving DecidableEq, Repr

/-- The words for the refusal of a pattern. -/
def PatternError.message : PatternError → Str
  | malformed fault place => fault.message ++ Str.ofText ((place.map Pattern.Place.message).getD [])
  | repetitionTooLarge => "the repetition number is too large".toList
  | tooManyDigits digits => Text.tooManyDigitsMessage digits
  | clashingModes => "ASCII and UNICODE flags are incompatible".toList
  | tooDeep => "maximum recursion depth exceeded".toList
  | lookbehindTooWide => "invalid SRE code".toList
  | crossedGroup =>
    "The span of capturing group is wrong, please report a bug for the re module.".toList

/-- Whether whoever asked for the pattern breaks off, instead of telling the error as one among
others. -/
def PatternError.breaksOff : PatternError → Bool
  | repetitionTooLarge | tooDeep | lookbehindTooWide | crossedGroup => true
  | malformed .. | tooManyDigits _ | clashingModes => false

end TexLog
