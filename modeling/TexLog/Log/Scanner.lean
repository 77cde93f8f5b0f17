import TexLog.Log.Joiner
import TexLog.Log.RecentLines
import TexLog.Report
import TexLog.Settings
import TexLog.Text.Lines

/-!
# Scanning a log

How the beginning of a diagnostic is recognised, and how the lines of a log are taken one by one.
-/

/-! ## Recognising the start of a diagnostic

Whether a text begins a diagnostic and how much of its message it shows. An error keeps only what
the pattern captures as its message; a warning keeps the whole text. Errors go before warnings. The
search for the pattern may break off, and then it cannot be said what the text shows:
`Settings.look` is what comes of a look at a text, and `Settings.recognise` what it shows as long as
searches are answered.
-/

namespace TexLog.Settings

/-- The error that a text shows. -/
def recogniseError (settings : Settings) (text : Text) : Option Diagnostic :=
  (settings.errorRule.message? text).map (⟨.error, ·⟩)

/-- The warning that a text begins. -/
def recogniseWarning (settings : Settings) (text : Text) : Option Diagnostic :=
  if settings.warningPrefixes.any (·.isPrefixOf text) then some ⟨.warning, text⟩ else none

/-- The diagnostic that a text begins: an error if it shows one, else a warning. -/
def recognise (settings : Settings) (text : Text) : Option Diagnostic :=
  settings.recogniseError text <|> settings.recogniseWarning text

/-- What comes of looking for the beginning of a diagnostic in a text. -/
def look (settings : Settings) (text : Text) : Except PatternError (Option Diagnostic) := do
  match ← settings.errorRule.search text with
  | some message => return some ⟨.error, message⟩
  | none => return settings.recogniseWarning text

/-- A look that is answered gives what the text shows. -/
theorem look_eq (settings : Settings) (text : Text) :
    settings.look text = match settings.errorRule.pattern.failure? text with
      | some error => .error error
      | none => .ok (settings.recognise text) := by
  unfold look ErrorRule.search Pattern.search recognise recogniseError ErrorRule.message?
  cases settings.errorRule.pattern.failure? text with
  | some error => rfl
  | none =>
    cases hfound : (settings.errorRule.pattern.leftmost text).bind
      (·.named? settings.errorRule.pattern messageGroup) <;>
    simp [Except.map, bind, Except.bind, pure, Except.pure, hfound]

end TexLog.Settings

/-! ## Scanning a log

The scanner takes the lines of a log one at a time and delivers each diagnostic as soon as it is
complete. A line is added to a message in progress; otherwise it is looked at together with the line
before it, if that one is as wide as the wrap width, and else alone. A line after an empty line is
held back and looked at one line late.
-/

namespace TexLog

/-- Where a line of process output comes from. -/
inductive Channel
  /-- The regular output of the process. -/
  | stdout
  /-- The error output of the process. -/
  | stderr
  /-- Remarks of whoever runs the process. -/
  | system
  deriving DecidableEq, Repr

/-- Whether the process itself wrote what comes on the channel. -/
def Channel.isProcessOutput : Channel → Bool
  | stdout | stderr => true
  | system => false

/-- The state of a scan. -/
structure Scanner where
  /-- What is known about the output of the compiler. -/
  settings : Settings
  /-- The last two lines. -/
  recent : RecentLines 2 := {}
  /-- The message in progress and the finished diagnostics. -/
  joiner : Joiner := {}
  /-- The line that is held back. -/
  held : Option Text := none

namespace Scanner

/-- The start of a scan. -/
def ofSettings (settings : Settings) : Scanner := { settings }

/-- The diagnostics delivered and not yet taken out. -/
def received (scanner : Scanner) : List Diagnostic := scanner.joiner.outbox.received

/-- The width at which lines are wrapped. -/
def width (scanner : Scanner) : Nat := scanner.settings.wrapWidth

/-- Whether a line is as wide as lines get, so that what it says may go on with the next one. -/
def isFull (scanner : Scanner) (line : Text) : Bool := scanner.width ≤ line.length

/-- Replaces the joiner by the result of one of its operations. -/
def joined (scanner : Scanner) (result : Joiner × Option Diagnostic) :
    Scanner × Option Diagnostic :=
  ({ scanner with joiner := result.1 }, result.2)

/-! ### Steps

How texts are looked at is left open in the steps: `look` is told the scanner as it stands and the
text. Below, the steps are taken once as if every search were answered, and once with searches that
may break off.
-/

section
variable {m : Type → Type} [Monad m] (look : Scanner → Text → m (Option Diagnostic))

/-- Looks for a diagnostic that straddles the line before the newest, if that is a full one, and the
newest line, or else begins on the newest line. -/
def recogniseRecentWith (scanner : Scanner) (line : Text) : m (Option Diagnostic) := do
  let straddling ←
    match scanner.recent.previous? with
    | some previous =>
      if scanner.isFull previous then look scanner scanner.recent.text else pure none
    | none => pure none
  match straddling with
  | some diagnostic => return some diagnostic
  | none => look scanner line

/-- Examines the newest line when neither a message is in progress nor a line held back that begins
one. -/
def examineWith (scanner : Scanner) (line : Text) : m (Scanner × Option Diagnostic) := do
  if scanner.recent.oldestIsEmpty then return ({ scanner with held := some line }, none)
  else
    match ← scanner.recogniseRecentWith look line with
    | some diagnostic => return scanner.joined (scanner.joiner.start scanner.width diagnostic line)
    | none => return (scanner, none)

/-- Deals with the newest line when a line was held back and begins a diagnostic: if that line is
full, the newest line goes on with it; else the diagnostic is complete, and the newest line is held
back in its turn. -/
def releaseHeld (scanner : Scanner) (held line : Text) (diagnostic : Diagnostic) :
    Scanner × Option Diagnostic :=
  if scanner.isFull held then
    let joiner := (scanner.joiner.start scanner.width diagnostic held).1
    scanner.joined ((joiner.feed? scanner.width line).getD (joiner, none))
  else
    { scanner with held := some line }.joined (scanner.joiner.finish diagnostic)

/-- Takes the next line, with or without its line end. The result has the diagnostic that the line
completes. -/
def feedWith (scanner : Scanner) (text : Text) : m (Scanner × Option Diagnostic) := do
  let line := text.stripLineEnd
  let scanner := { scanner with recent := scanner.recent.push line }
  match scanner.joiner.feed? scanner.width line with
  | some result => return scanner.joined result
  | none =>
    let free := { scanner with held := none }
    match scanner.held with
    | none => free.examineWith look line
    | some held =>
      match ← look free held with
      | some diagnostic => return free.releaseHeld held line diagnostic
      | none => free.examineWith look line

/-- Takes what comes on a channel; what the process did not write is ignored. -/
def feedFromWith (scanner : Scanner) (channel : Channel) (text : Text) :
    m (Scanner × Option Diagnostic) :=
  if channel.isProcessOutput then scanner.feedWith look text else return (scanner, none)

/-- Takes several lines. The result has the diagnostics that they complete. -/
def feedLinesWith (scanner : Scanner) (lines : List Text) : m (Scanner × List Diagnostic) :=
  lines.foldlM
    (fun (scanner, completed) line => do
      let (scanner, diagnostic) ← scanner.feedWith look line
      return (scanner, completed ++ diagnostic.toList))
    (scanner, [])

/-- Ends the log: a message in progress is delivered as it is, and a line held back is looked at on
its own. -/
def finishWith (scanner : Scanner) : m (Scanner × Option Diagnostic) := do
  if scanner.joiner.pending.isSome then return scanner.joined scanner.joiner.flush
  else
    let free := { scanner with held := none }
    match scanner.held with
    | none => return (free, none)
    | some held =>
      match ← look free held with
      | some diagnostic => return free.joined (scanner.joiner.finish diagnostic)
      | none => return (free, none)

/-- Takes a whole log, and ends it if `flush` is set. -/
def scanWith (scanner : Scanner) (text : Text) (flush : Bool) :
    m (Scanner × List Diagnostic) := do
  let (scanner, completed) ← scanner.feedLinesWith look text.lines
  if flush then
    let (scanner, diagnostic) ← scanner.finishWith look
    return (scanner, completed ++ diagnostic.toList)
  else return (scanner, completed)

end

/-- Forgets the recent lines, the line held back and the message in progress; what was delivered
stays. -/
def reset (scanner : Scanner) : Scanner :=
  { scanner with recent := scanner.recent.clear, joiner := scanner.joiner.reset, held := none }

/-! ### Steps whose searches are answered -/

/-- Looks at a text as if every search were answered. -/
def answer (scanner : Scanner) (text : Text) : Id (Option Diagnostic) :=
  scanner.settings.recognise text

/-- The diagnostic that begins on the newest line or straddles the line before it, if that is a full
one, and the newest line. -/
def recogniseRecent (scanner : Scanner) (line : Text) : Option Diagnostic :=
  Id.run (scanner.recogniseRecentWith answer line)

/-- Examines the newest line. -/
def examine (scanner : Scanner) (line : Text) : Scanner × Option Diagnostic :=
  Id.run (scanner.examineWith answer line)

/-- Takes the next line, with or without its line end. -/
def feed (scanner : Scanner) (text : Text) : Scanner × Option Diagnostic :=
  Id.run (scanner.feedWith answer text)

/-- Takes what comes on a channel. -/
def feedFrom (scanner : Scanner) (channel : Channel) (text : Text) :
    Scanner × Option Diagnostic :=
  Id.run (scanner.feedFromWith answer channel text)

/-- Takes several lines. -/
def feedLines (scanner : Scanner) (lines : List Text) : Scanner × List Diagnostic :=
  Id.run (scanner.feedLinesWith answer lines)

/-- Ends the log. -/
def finish (scanner : Scanner) : Scanner × Option Diagnostic := Id.run (scanner.finishWith answer)

/-- Takes a whole log, and ends it if `flush` is set. -/
def scan (scanner : Scanner) (text : Text) (flush : Bool) : Scanner × List Diagnostic :=
  Id.run (scanner.scanWith answer text flush)

/-- What the recent lines show, if every search is answered. -/
theorem recogniseRecent_eq (scanner : Scanner) (line : Text) :
    scanner.recogniseRecent line =
      ((do
        let previous ← scanner.recent.previous?
        if scanner.isFull previous then scanner.settings.recognise scanner.recent.text
        else none) <|> scanner.settings.recognise line) := by
  unfold recogniseRecent recogniseRecentWith
  cases scanner.recent.previous? with
  | none => rfl
  | some previous =>
    simp only [Option.bind_eq_bind, Option.bind_some]
    split
    · simp only [answer]
      cases scanner.settings.recognise scanner.recent.text with
      | none => simp; rfl
      | some diagnostic => simp; rfl
    · rfl

/-- How a line is examined, if every search is answered. -/
theorem examine_eq (scanner : Scanner) (line : Text) :
    scanner.examine line =
      if scanner.recent.oldestIsEmpty then ({ scanner with held := some line }, none)
      else
        match scanner.recogniseRecent line with
        | some diagnostic => scanner.joined (scanner.joiner.start scanner.width diagnostic line)
        | none => (scanner, none) := by
  unfold examine examineWith recogniseRecent
  split
  · rfl
  · cases scanner.recogniseRecentWith answer line <;> rfl

/-- How a line is taken, if every search is answered. -/
theorem feed_eq (scanner : Scanner) (text : Text) :
    scanner.feed text =
      let line := text.stripLineEnd
      let scanner := { scanner with recent := scanner.recent.push line }
      match scanner.joiner.feed? scanner.width line with
      | some result => scanner.joined result
      | none =>
        let free := { scanner with held := none }
        match scanner.held with
        | none => free.examine line
        | some held =>
          match scanner.settings.recognise held with
          | some diagnostic => free.releaseHeld held line diagnostic
          | none => free.examine line := by
  rfl

/-- What comes on a channel is taken as a line, or ignored. -/
theorem feedFrom_eq (scanner : Scanner) (channel : Channel) (text : Text) :
    scanner.feedFrom channel text =
      if channel.isProcessOutput then scanner.feed text else (scanner, none) := by
  unfold feedFrom feedFromWith
  split <;> rfl

/-- How a log ends, if every search is answered. -/
theorem finish_eq (scanner : Scanner) :
    scanner.finish =
      if scanner.joiner.pending.isSome then scanner.joined scanner.joiner.flush
      else
        let free := { scanner with held := none }
        match scanner.held.bind scanner.settings.recognise with
        | some diagnostic => free.joined (scanner.joiner.finish diagnostic)
        | none => (free, none) := by
  unfold finish finishWith
  split
  · rfl
  · cases scanner.held <;> rfl

/-- Several lines are taken one after the other. -/
theorem feedLines_eq (scanner : Scanner) (lines : List Text) :
    scanner.feedLines lines = lines.foldl
      (fun (scanner, completed) line =>
        let (scanner, diagnostic) := scanner.feed line
        (scanner, completed ++ diagnostic.toList))
      (scanner, []) := by
  unfold feedLines feedLinesWith
  rw [List.idRun_foldlM]
  rfl

/-- A whole log is taken line by line. -/
theorem scan_eq (scanner : Scanner) (text : Text) (flush : Bool) :
    scanner.scan text flush =
      let (scanner, completed) := scanner.feedLines text.lines
      if flush then
        let (scanner, diagnostic) := scanner.finish
        (scanner, completed ++ diagnostic.toList)
      else (scanner, completed) := by
  cases flush <;> rfl

/-! ### Steps whose searches may break off -/

/-- A search that broke off, and the scanner as it stood then. -/
structure Breakdown where
  /-- The scanner; the newest line is among its recent lines, and no line is held back. -/
  scanner : Scanner
  /-- Why the search broke off. -/
  error : PatternError

/-- Looks at a text. -/
def attempt (scanner : Scanner) (text : Text) : Except Breakdown (Option Diagnostic) :=
  (scanner.settings.look text).mapError (⟨scanner, ·⟩)

/-- Takes the next line, with or without its line end. -/
def tryFeed (scanner : Scanner) (text : Text) : Except Breakdown (Scanner × Option Diagnostic) :=
  scanner.feedWith attempt text

/-- Takes what comes on a channel. -/
def tryFeedFrom (scanner : Scanner) (channel : Channel) (text : Text) :
    Except Breakdown (Scanner × Option Diagnostic) :=
  scanner.feedFromWith attempt channel text

/-- Takes several lines. -/
def tryFeedLines (scanner : Scanner) (lines : List Text) :
    Except Breakdown (Scanner × List Diagnostic) :=
  scanner.feedLinesWith attempt lines

/-- Ends the log. -/
def tryFinish (scanner : Scanner) : Except Breakdown (Scanner × Option Diagnostic) :=
  scanner.finishWith attempt

/-- Takes a whole log, and ends it if `flush` is set. -/
def tryScan (scanner : Scanner) (text : Text) (flush : Bool) :
    Except Breakdown (Scanner × List Diagnostic) :=
  scanner.scanWith attempt text flush

end Scanner

end TexLog
