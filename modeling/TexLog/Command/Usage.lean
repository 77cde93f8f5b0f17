import TexLog.Command.Parameter
import TexLog.Text.Notation

/-!
# How the command is used

The help text, and what is told about a command line that cannot be understood.
-/

namespace TexLog

/-- What is wrong with a command line. -/
inductive Misuse
  /-- The beginning of a spelling has several continuations. -/
  | ambiguous (written : Text) (spellings : List Text)
  /-- A parameter has no value. -/
  | valueMissing (parameter : Parameter)
  /-- A parameter has a value and takes none. -/
  | valueIgnored (parameter : Parameter) (value : Text)
  /-- A value is none of those that a parameter takes. -/
  | badChoice (parameter : Parameter) (value : Text) (choices : List Text)
  /-- A value is no integer. -/
  | badInteger (parameter : Parameter) (value : Text)
  /-- There are no log files. -/
  | pathsMissing
  /-- There are words that mean nothing. -/
  | unrecognized (words : List Text)
  deriving DecidableEq, Repr

/-- The words for what is wrong with the value of a parameter. -/
def Parameter.complaint (parameter : Parameter) (words : Text) : Text :=
  "argument ".toList ++ parameter.title ++ ": ".toList ++ words

/-- The words for what is wrong with a command line. -/
def Misuse.message : Misuse → Text
  | ambiguous written spellings =>
    "ambiguous option: ".toList ++ written ++ " could match ".toList ++
      Text.joinWith ", ".toList spellings
  | valueMissing parameter => parameter.complaint "expected one argument".toList
  | valueIgnored parameter value =>
    parameter.complaint ("ignored explicit argument ".toList ++ value.quoted)
  | badChoice parameter value choices =>
    parameter.complaint ("invalid choice: ".toList ++ value.quoted ++ " (choose from ".toList ++
      Text.joinWith ", ".toList (choices.map Text.quoted) ++ [')'])
  | badInteger parameter value =>
    parameter.complaint ("invalid int value: ".toList ++ value.quoted)
  | pathsMissing => "the following arguments are required: file_paths".toList
  | unrecognized words => "unrecognized arguments: ".toList ++ Text.joinWith [' '] words

/-- The name of the command. -/
def commandName : Text := "latex-log-parser".toList

/-- The lines that show how the command is called. -/
def usageLines : List String := [
  "usage: latex-log-parser [-h] [--output-format \x7bjson,csv,xml\x7d]",
  "                        [--output-file OUTPUT_FILE] [--output-dir OUTPUT_DIR]",
  "                        [--filter [\x7berror,warning\x7d ...]]",
  "                        [--message-pattern MESSAGE_PATTERN] [--config CONFIG]",
  "                        [--wrap-width WRAP_WIDTH] [--no-flush] [--stats]",
  "                        [--verbose] [--concurrency CONCURRENCY] [--no-color]",
  "                        file_paths [file_paths ...]"]

/-- The lines that explain the parameters. -/
def helpLines : List String := [
  "",
  "Extract errors and warnings from LaTeX compiler logs.",
  "",
  "positional arguments:",
  "  file_paths            Paths to the LaTeX log files.",
  "",
  "options:",
  "  -h, --help            show this help message and exit",
  "  --output-format \x7bjson,csv,xml\x7d",
  "                        Output format (default: json).",
  "  --output-file OUTPUT_FILE",
  "                        Base name for the output file without extension",
  "                        (default: latex_diagnostics).",
  "  --output-dir OUTPUT_DIR",
  "                        Directory for output files (default: current",
  "                        directory).",
  "  --filter [\x7berror,warning\x7d ...]",
  "                        Filter by diagnostic kind.",
  "  --message-pattern MESSAGE_PATTERN",
  "                        Regular expression to filter diagnostics by message.",
  "  --config CONFIG       JSON file describing the log format (wrap width,",
  "                        patterns).",
  "  --wrap-width WRAP_WIDTH",
  "                        Column at which the log wraps (default: 79).",
  "  --no-flush            Drop a message left unfinished at the end of a log",
  "                        instead of emitting it.",
  "  --stats               Include statistics in the output.",
  "  --verbose             Enable verbose logging output.",
  "  --concurrency CONCURRENCY",
  "                        Number of concurrent threads for processing files",
  "                        (default: 4).",
  "  --no-color            Disable colorized output."]

/-- Printed lines, each with its line feed. -/
def printedLines (lines : List String) : Text := lines.flatMap fun line => line.toList ++ ['\n']

/-- How the command is called. -/
def usageText : Text := printedLines usageLines

/-- The whole help text. -/
def helpText : Text := printedLines (usageLines ++ helpLines)

end TexLog
