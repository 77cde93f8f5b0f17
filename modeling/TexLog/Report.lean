import TexLog.Text.Basic
import TexLog.Text.Case
import TexLog.Text.Classes

/-!
# Reports

What logs had to say, and how a report is displayed.
-/

/-! ## Diagnostics and reports

A diagnostic is an error or a warning with its whole message. A report is what one log, or several
together, had to say.
-/

namespace TexLog

/-- Whether a diagnostic is an error or a warning. -/
inductive Kind
  /-- An error. -/
  | error
  /-- A warning. -/
  | warning
  deriving DecidableEq, Repr

namespace Kind

/-- The kinds in the order in which they are listed. -/
def all : List Kind := [error, warning]

/-- The name of a kind. -/
def name : Kind → Text
  | error => "error".toList
  | warning => "warning".toList

/-- The lower-case form of a character. The capital I with a dot keeps its dot as a mark of its own;
every other character has a lower-case form of one character. -/
def lowered (c : Char) : Text :=
  if c = '\u0130' then ['i', '\u0307'] else [Char.ofNat (Text.lowerCode c.toNat)]

/-- The kind with the given name, whatever its case and the blanks around it. -/
def ofName? (name : Text) : Option Kind :=
  let normal := name.strip.flatMap lowered
  all.find? fun kind => kind.name == normal

end Kind

/-- An error or a warning with its whole message. -/
structure Diagnostic where
  /-- Error or warning. -/
  kind : Kind
  /-- The message, with the pieces of a wrapped line joined. -/
  message : Text
  deriving DecidableEq, Repr

/-- The diagnostics of one source, which may be called by a text, a path, or anything else. -/
structure ReportOn (Source : Type) where
  /-- Where the diagnostics come from. -/
  source : Source
  /-- The diagnostics in the order in which they were found. -/
  diagnostics : List Diagnostic
  deriving DecidableEq, Repr

/-- A report whose source is called by a text. -/
abbrev Report := ReportOn Text

namespace ReportOn
variable {Source : Type}

/-- The diagnostics of one kind. -/
def ofKind (report : ReportOn Source) (kind : Kind) : List Diagnostic :=
  report.diagnostics.filter (·.kind = kind)

/-- The errors of a report. -/
def errors (report : ReportOn Source) : List Diagnostic := report.ofKind .error

/-- The warnings of a report. -/
def warnings (report : ReportOn Source) : List Diagnostic := report.ofKind .warning

end ReportOn

/-- The diagnostics of several reports in one. -/
def Report.combine {Source : Type} (reports : List (ReportOn Source)) (source : Text) : Report where
  source := source
  diagnostics := reports.flatMap (·.diagnostics)

end TexLog

/-! ## Displaying reports

A report for a reader: a summary with the numbers of diagnostics, and the diagnostics line by line,
red and yellow if colours are wanted.
-/

namespace TexLog

/-- The word in front of the diagnostics of a kind. -/
def Kind.label : Kind → Text
  | error => "ERROR".toList
  | warning => "WARNING".toList

/-- The number of the terminal colour of a kind. -/
def Kind.colour : Kind → Text
  | error => "31".toList
  | warning => "33".toList

namespace Report

/-- A diagnostic on a line of its own. -/
def plainLine (diagnostic : Diagnostic) : Text :=
  diagnostic.kind.label ++ ": ".toList ++ diagnostic.message

/-- The line of a diagnostic in the colour of its kind. -/
def colouredLine (diagnostic : Diagnostic) : Text :=
  "\x1b[".toList ++ diagnostic.kind.colour ++ 'm' :: plainLine diagnostic ++ "\x1b[0m".toList

/-- Where the report comes from and how many diagnostics it has. -/
def summary (report : Report) : Text :=
  Text.joinWith ['\n'] [
    "\nLaTeX Log Summary:".toList,
    "Source: ".toList ++ report.source,
    "Total Diagnostics: ".toList ++ Text.ofNat report.diagnostics.length,
    "Errors: ".toList ++ Text.ofNat report.errors.length,
    "Warnings: ".toList ++ Text.ofNat report.warnings.length]

/-- The summary and a line for every diagnostic. -/
def listing (report : Report) (line : Diagnostic → Text) : Text :=
  Text.joinWith ['\n'] (report.summary :: "\nMessages:".toList :: report.diagnostics.map line)

/-- The whole report without colours. -/
def plainText (report : Report) : Text := report.listing plainLine

/-- What is shown of a report. -/
def display (report : Report) (coloured : Bool) : Text :=
  report.listing (if coloured then colouredLine else plainLine) ++ ['\n']

end Report

end TexLog
