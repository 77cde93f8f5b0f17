import TexLog.Settings
import TexLog.Settings.WrapWidth

/-!
# Settings as values

Settings are written as a JSON object with the members `wrap_width`, `warning_prefixes` and
`error_pattern`, each of which may be missing. `Settings.ofJson` reads them and lists all issues
with a value that stands for none; `Settings.members` writes them, so that single members can be
replaced.
-/

namespace TexLog

/-- A step from a value to a part of it. -/
inductive Step
  /-- To the member of that name. -/
  | member (name : Str)
  /-- To the item of that index. -/
  | item (index : Nat)
  deriving DecidableEq, Repr

namespace Settings

/-- The member for the wrap width. -/
def wrapWidthName : Str := Str.of "wrap_width"

/-- The member for the beginnings of warnings. -/
def warningPrefixesName : Str := Str.of "warning_prefixes"

/-- The member for the pattern of errors. -/
def errorPatternName : Str := Str.of "error_pattern"

/-- The names of all members. -/
def memberNames : List Str := [wrapWidthName, warningPrefixesName, errorPatternName]

/-- A single thing that is wrong with a value. -/
inductive Issue
  /-- It is no object. -/
  | notAnObject
  /-- The wrap width is none. -/
  | wrapWidth (fault : WrapWidth.Fault)
  /-- The beginnings of warnings are no array. -/
  | prefixesNotArray
  /-- A beginning of warnings is no string. -/
  | prefixNotText (index : Nat)
  /-- A beginning of warnings is empty. -/
  | emptyPrefix
  /-- The pattern of errors is no string. -/
  | patternNotText
  /-- The pattern of errors is refused. -/
  | badPattern (error : PatternError)
  /-- The pattern of errors captures no message. -/
  | noMessageGroup
  /-- A member has a name that is not known. -/
  | unknownMember (name : Str)
  /-- A member has a name that is no text. -/
  | brokenName
  deriving DecidableEq, Repr

/-- Where an issue lies. -/
def Issue.location : Issue → List Step
  | notAnObject | brokenName => []
  | wrapWidth _ => [.member wrapWidthName]
  | prefixesNotArray | emptyPrefix => [.member warningPrefixesName]
  | prefixNotText index => [.member warningPrefixesName, .item index]
  | patternNotText | badPattern _ | noMessageGroup => [.member errorPatternName]
  | unknownMember name => [.member name]

/-- The words for an issue. -/
def Issue.message : Issue → Str
  | notAnObject => "Input should be a valid dictionary or instance of ParserConfig".toList
  | wrapWidth fault => fault.message
  | prefixesNotArray => "Input should be a valid tuple".toList
  | prefixNotText _ | patternNotText => "Input should be a valid string".toList
  | emptyPrefix => "Value error, warning prefixes must not be empty".toList
  | badPattern (.malformed fault place) =>
    Str.of "Value error, invalid error pattern: " ++
      (PatternError.malformed fault place).message
  | badPattern error => Str.of "Value error, " ++ error.message
  | noMessageGroup => "Value error, error pattern must define a 'message' group".toList
  | unknownMember _ => "Extra inputs are not permitted".toList
  | brokenName => WrapWidth.Fault.notText.message

/-- The words for several issues. -/
def messageOfIssues (issues : List Issue) : Str :=
  (Str.of "; ").intercalate (issues.map Issue.message)

/-- Why a value stands for no settings. -/
inductive Refusal
  /-- All that is wrong with it. -/
  | issues (issues : List Issue)
  /-- The pattern of errors is refused for a reason that is no issue with the value, and nothing
  else was looked at. -/
  | pattern (error : PatternError)
  deriving DecidableEq, Repr

/-! ## Reading -/

/-- The string that a value is. -/
def str? : Json → Option Str
  | .string str => some str
  | _ => none

/-- The beginnings of warnings that a value stands for. -/
def prefixesOfJson (value : Json) :
    Except (List Issue) { starts : List Str // ∀ start ∈ starts, start ≠ [] } :=
  match value with
  | .array items =>
    let starts := items.filterMap str?
    if starts.length < items.length then
      .error (items.zipIdx.filterMap fun (item, index) =>
        if (str? item).isSome then none else some (.prefixNotText index))
    else if h : ∀ start ∈ starts, start ≠ [] then .ok ⟨starts, h⟩
    else .error [.emptyPrefix]
  | _ => .error [.prefixesNotArray]

section
variable [Runtime]

/-- The rule for errors that a written pattern gives. -/
def ruleOfStr (written : Str) : Except Issue ErrorRule :=
  match Pattern.read written with
  | .error error => .error (.badPattern error)
  | .ok pattern =>
    if has : pattern.hasGroup messageGroup = true then .ok ⟨written, pattern, has⟩
    else .error .noMessageGroup

/-- The rule for errors that a value stands for. -/
def ruleOfJson (value : Json) : Except Issue ErrorRule :=
  match str? value with
  | some written => ruleOfStr written
  | none => .error .patternNotText

end

/-- What a member stands for; a missing one stands for the standard. -/
def memberOr {ε α : Type} (members : List (Str × Json)) (name : Str) (standard : α)
    (ofJson : Json → Except ε α) : Except ε α :=
  match members.lookup name with
  | some value => ofJson value
  | none => .ok standard

/-- What is wrong with one member. -/
def issuesOf {ε α : Type} (toIssues : ε → List Issue) : Except ε α → List Issue
  | .ok _ => []
  | .error error => toIssues error

/-- The names of the members that are not known, in the order of the members. -/
def unknownMembers (members : List (Str × Json)) : List Str :=
  (members.map Prod.fst).filter fun name => !memberNames.contains name

/-- Why the reading of settings breaks off at the pattern of errors, if it does. -/
def breakingError? : Except Issue ErrorRule → Option PatternError
  | .error (.badPattern error) => if error.breaksOff then some error else none
  | _ => none

/-- Whether the name of some member is no text. -/
def hasBrokenName (members : List (Str × Json)) : Bool := members.any fun member => !member.1.isText

section
variable [Runtime]

/-- The settings that the members of an object stand for. A name that is no text hides all other
issues, except what breaks off. -/
def ofMembers (members : List (Str × Json)) : Except Refusal Settings :=
  let width := memberOr members wrapWidthName ⟨standard.wrapWidth, standard.wrapWidth_pos⟩
    WrapWidth.ofJson
  let starts := memberOr members warningPrefixesName
    ⟨standard.warningPrefixes, standard.warningPrefixes_ne⟩ prefixesOfJson
  let rule := memberOr members errorPatternName standard.errorRule ruleOfJson
  let unknown := unknownMembers members
  match breakingError? rule, hasBrokenName members, width, starts, rule, unknown with
  | some error, _, _, _, _, _ => .error (.pattern error)
  | none, true, _, _, _, _ => .error (.issues [.brokenName])
  | none, false, .ok width, .ok starts, .ok rule, [] =>
    .ok ⟨width.val, starts.val, rule, width.property, starts.property⟩
  | none, false, _, _, _, _ =>
    .error (.issues (issuesOf (fun fault => [.wrapWidth fault]) width ++ issuesOf id starts ++
      issuesOf (fun issue => [issue]) rule ++ unknown.map .unknownMember))

/-- The settings that a value stands for. -/
def ofJson : Json → Except Refusal Settings
  | .object members => ofMembers members
  | _ => .error (.issues [.notAnObject])

end

/-! ## Replacing members -/

/-- Settings as the members of an object. -/
def members (settings : Settings) : List (Str × Json) := [
  (wrapWidthName, .integer settings.wrapWidth),
  (warningPrefixesName, .array (settings.warningPrefixes.map .string)),
  (errorPatternName, .string settings.errorRule.written)]

/-- The name that no update may have. -/
def reservedName : Str := Str.of "self"

/-- Why members are not replaced. -/
inductive OverrideError
  /-- An update has the reserved name. -/
  | reservedName
  /-- The result stands for no settings. -/
  | refused (refusal : Refusal)
  deriving DecidableEq, Repr

/-- The words for the reason. -/
def OverrideError.message : OverrideError → Str
  | reservedName =>
    "ParserConfig.with_overrides() got multiple values for argument 'self'".toList
  | refused (.issues issues) =>
    Str.of "Invalid configuration override: " ++ messageOfIssues issues
  | refused (.pattern error) => error.message

/-- The settings with some members replaced; a null replaces nothing. -/
def override [Runtime] (settings : Settings) (updates : List (Str × Json)) :
    Except OverrideError Settings :=
  if updates.any (·.1 = reservedName) then .error .reservedName
  else
    (ofMembers (Json.setMembers settings.members
      (updates.filter fun update => !update.2.isNull))).mapError .refused

end Settings

end TexLog
