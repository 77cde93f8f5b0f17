import TexLog.Pattern.Escapes
import TexLog.Text.Classes
import TexLog.Text.Notation

/-!
# The openings of groups in written patterns

What follows an opening parenthesis: a name for the group, an assertion, a condition, a comment, or
modes that are switched for the group or for the whole pattern.
-/

namespace TexLog.Pattern

/-! ## Modes -/

/-- Reads letters of modes after the one given, up to a character of `stops`, which is returned with
the modes. `allowed` tells why a mode may not stand here; `expected` is what is missing if the list
ends too early. -/
def readModes (stops : Text) (allowed : Mode → Modes → Option Fault) (expected : Text)
    (mode : Mode) : Read (Modes × Char) := do
  loop ((← get).rest.length + 1) mode []
where
  loop : Nat → Mode → Modes → Read (Modes × Char)
    | 0, _, _ => failAt 0 (.modesCutShort expected)
    | fuel + 1, mode, modes => do
      let modes := mode :: modes
      if let some fault := allowed mode modes then failAt 0 fault
      match ← next with
      | none => failAt 0 (.modesCutShort expected)
      | some (.escape _) | some (.escapedHalf _) => failAt 2 (.modesCutShort expected)
      | some (.half _) => failAt 1 (.modesCutShort expected)
      | some (.char c) =>
        if stops.contains c then return (modes, c)
        match Mode.ofLetter? c with
        | some mode => loop fuel mode modes
        | none => failAt 1 (if Text.isLetter c then .unknownMode else .modesCutShort expected)

/-- Why a mode may not be asked for: locales are not for texts, and repertoires exclude each
other. -/
def mayTurnOn (mode : Mode) (modes : Modes) : Option Fault :=
  if mode = .localeBound then some .localeMode
  else if mode.isRepertoire && modes.any fun other => other.isRepertoire && other != mode then
    some .incompatibleModes
  else none

/-- Why a mode may not be dismissed. -/
def mayTurnOff (mode : Mode) (_ : Modes) : Option Fault :=
  if mode.isRepertoire then some .repertoireDismissed else none

/-- Reads the modes to be dismissed, after the minus sign. -/
def readModesOff : Read Modes := do
  match ← next with
  | none => failAt 0 (.modesCutShort "flag".toList)
  | some (.escape _) | some (.escapedHalf _) => failAt 2 (.modesCutShort "flag".toList)
  | some (.half _) => failAt 1 (.modesCutShort "flag".toList)
  | some (.char c) =>
    match Mode.ofLetter? c with
    | none => failAt 1 (if Text.isLetter c then .unknownMode else .modesCutShort "flag".toList)
    | some mode => return (← readModes [':'] mayTurnOff [':'] mode).1

/-- Reads the modes that a group switches, from their first character on. Modes that hold for the
whole pattern are noted and give nothing. -/
def readModeChange (c : Char) : Read (Option (Modes × Modes)) := do
  let (on, stop) ←
    match Mode.ofLetter? c with
    | some mode => readModes [')', '-', ':'] mayTurnOn "-, : or )".toList mode
    | none => pure ([], '-')
  if stop = ')' then
    modify fun reading => { reading with modes := reading.modes ++ on }
    return none
  if on.contains .template then failAt 1 .wholeModeOn
  let off ← if stop = '-' then readModesOff else pure []
  if off.contains .template then failAt 1 .wholeModeOff
  if on.any (off.contains ·) then failAt 1 .modeOnAndOff
  return some (on, off)

/-! ## Groups -/

/-- How a group opens. -/
inductive Opening
  /-- A capturing group, which may have a name. -/
  | capture (name : Option Text)
  /-- A group that only switches modes, perhaps none. -/
  | plain (on off : Modes)
  /-- A group of which only the first match counts. -/
  | atomic
  /-- An assertion. -/
  | look (behind positive : Bool)
  /-- A condition on a group. -/
  | condition (number : Nat)
  /-- Something complete in itself: a reference by name, or nothing for comments and modes of the
  whole pattern. -/
  | complete (node : Option Node)

/-- Reads a group name and its terminator. -/
def readGroupName (terminator : Char) : Read Text := do
  let name ← takeUntil terminator "group name".toList
  match name.text?.filter Text.isIdentifier with
  | some text => return text
  | none => failAt (name.length + 1) (.badGroupName name)

/-- The number of the group that has a name. -/
def groupNamed (name : Text) : Read Nat := do
  match (← get).names.lookup name with
  | some number => return number
  | none => failAt (name.length + 1) (.unknownGroupName name)

/-- Groups are numbered below this limit. -/
def groupLimit : Nat := 1073741823

/-- Reads the group that a condition asks about and the parenthesis after it. -/
def readCondition : Read Nat := do
  let name ← takeUntil ')' "group name".toList
  let number ←
    match name.text?.filter Text.isIdentifier with
    | some text => groupNamed text
    | none =>
      match name.text?.bind Text.readInt? with
      | some (.ofNat number) =>
        if number = 0 then failAt (name.length + 1) .badGroupNumber
        if groupLimit ≤ number then
          failAt (name.length + 1) (.invalidGroupReference number)
        let place := (← tell) - name.length - 1
        modify fun reading =>
          if (reading.conditions.lookup number).isSome then reading
          else { reading with conditions := reading.conditions ++ [(number, place)] }
        pure number
      | _ => failAt (name.length + 1) (.badGroupName name)
  if let some before := (← get).groupsBeforeLookbehind then
    if ((← get).closedWidth? number).isNone then failAt 0 .openGroup
    if before < number then failAt 0 .groupOfSameLookbehind
  return number

/-- Reads the opening of a group that follows a parenthesis at `start`. Modes for the whole pattern
are welcome only where `atStart` says so. -/
def readOpening (start : Nat) (atStart : Bool) : Read Opening := do
  unless ← accept '?' do return .capture none
  match ← next with
  | none => failAt 0 .unexpectedEnd
  | some (.char 'P') =>
    if ← accept '<' then return .capture (some (← readGroupName '>'))
    if ← accept '=' then
      let name ← readGroupName ')'
      let number ← groupNamed name
      referTo number (name.length + 1)
      return .complete (some (.backref number))
    match ← next with
    | none => failAt 0 .unexpectedEnd
    | some token =>
      failAt (token.str.length + 2) (.unknownExtension (.char 'P' :: token.str))
  | some (.char ':') => return .plain [] []
  | some (.char '#') =>
    unless ← skipPast ')' do failFrom start .unterminatedComment
    return .complete none
  | some (.char '=') => return .look false true
  | some (.char '!') => return .look false false
  | some (.char '<') =>
    match ← next with
    | none => failAt 0 .unexpectedEnd
    | some (.char '=') => return .look true true
    | some (.char '!') => return .look true false
    | some token => failAt (token.str.length + 2) (.unknownExtension (.char '<' :: token.str))
  | some (.char '(') => return .condition (← readCondition)
  | some (.char '>') => return .atomic
  | some token =>
    match token with
    | .char c =>
      if (Mode.ofLetter? c).isSome || c = '-' then
        match ← readModeChange c with
        | some (on, off) => return .plain on off
        | none =>
          unless atStart do failFrom start .modesNotAtStart
          return .complete none
      else failAt 2 (.unknownExtension token.str)
    | _ => failAt (token.str.length + 1) (.unknownExtension token.str)

/-- Opens a capturing group and gives its number. -/
def openGroup (name : Option Text) : Read Nat := do
  let number := (← get).groups.length + 1
  modify fun reading => { reading with groups := reading.groups ++ [none] }
  if let some name := name then
    if let some first := (← get).names.lookup name then
      failAt (name.length + 1) (.redefinedGroup name number first)
    modify fun reading => { reading with names := reading.names ++ [(name, number)] }
  return number

/-- Closes a capturing group whose body has been read. -/
def closeGroup (number : Nat) (body : Node) : Read Unit :=
  modify fun reading =>
    { reading with groups := reading.groups.set (number - 1) (some (reading.widthOf body)) }

/-- Takes the closing parenthesis of the group that opened at `start`. -/
def closeParenthesis (start : Nat) : Read Unit := do
  unless ← accept ')' do failFrom start .unterminatedGroup

end TexLog.Pattern
