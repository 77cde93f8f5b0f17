import TexLog.Command.Usage
import TexLog.Text.Notation

/-!
# Reading command lines

A word of a command line is a value, a separator, or the spelling of a parameter. A spelling may be
cut short as long as only one parameter begins like it, and may have a value after an equals sign; a
separator there stands for no value at all.
Values that no parameter takes are the paths of the log files, if they are the first that come in
one run; a separator makes all words after it values.
-/

namespace TexLog

namespace Arguments

/-- Why a command line gives no arguments. -/
inductive Ending
  /-- It asks for help. -/
  | help
  /-- It cannot be understood. -/
  | misuse (misuse : Misuse)
  deriving DecidableEq, Repr

/-! ## Words -/

/-- A word that is no spelling of a parameter. -/
inductive Item
  /-- A value. -/
  | value (text : Text)
  /-- The word after which all words are values. -/
  | separator
  deriving DecidableEq, Repr

/-- A word that looks like the spelling of a parameter. -/
inductive Lead
  /-- A parameter, with the value that the word itself has for it. -/
  | parameter (parameter : Parameter) (value : Option Text)
  /-- No parameter is spelled like this. -/
  | unknown (text : Text)
  deriving DecidableEq, Repr

/-- The written separator. -/
def separatorText : Text := ['-', '-']

/-- A word as it is written. -/
def Item.text : Item → Text
  | value text => text
  | separator => separatorText

/-- Whether a word is a value. -/
def Item.isValue : Item → Bool
  | value _ => true
  | separator => false

/-- Whether a text is a negative decimal number, perhaps with a line feed after it. -/
def isNegativeNumber (text : Text) : Bool :=
  let unended := if text.getLast? = some '\n' then text.dropLast else text
  match unended with
  | '-' :: number =>
    match number.span Text.isDigit with
    | (whole, []) => !whole.isEmpty
    | (_, '.' :: places) => !places.isEmpty && places.all Text.isDigit
    | _ => false
  | _ => false

/-- The value that a word has for the short parameter that asks for help, from what comes after its
letter. Further letters may ask for help again; what is left after them is taken for a value. -/
def helpValue (text : Text) : Option Text :=
  if text = ['='] then some []
  else
    let unmarked := if text.head? = some '=' then text.drop 1 else text
    let value := unmarked.dropWhile (· = 'h')
    if value.isEmpty then none else some value

/-- A word that begins with a hyphen and is no spelling of a parameter. -/
def unspelled (text : Text) : Item ⊕ Lead :=
  if isNegativeNumber text || text.contains ' ' then .inl (.value text) else .inr (.unknown text)

/-- The part of a text before its first equals sign, and what comes after that. -/
def splitAtEquals (text : Text) : Text × Option Text :=
  match text.span (· ≠ '=') with
  | (stem, []) => (stem, none)
  | (stem, _ :: value) => (stem, some value)

/-- The parameters that have a spelling with the given beginning. -/
def candidates (stem : Text) : List (Text × Parameter) :=
  Parameter.spellings.filter fun spelling => stem.isPrefixOf spelling.1

/-- What a word is. -/
def classify (text : Text) : Except Misuse (Item ⊕ Lead) :=
  match text with
  | '-' :: '-' :: _ =>
    let (stem, value) := splitAtEquals text
    match candidates stem with
    | [] => .ok (unspelled text)
    | [(_, parameter)] => .ok (.inr (.parameter parameter value))
    | several => .error (.ambiguous text (several.map Prod.fst))
  | '-' :: 'h' :: rest => .ok (.inr (.parameter .help (helpValue rest)))
  | '-' :: _ :: _ => .ok (unspelled text)
  | _ => .ok (.inl (.value text))

/-- The words of a command line. -/
def classifyAll : List Text → Except Misuse (List (Item ⊕ Lead))
  | [] => .ok []
  | text :: rest =>
    if text = separatorText then
      .ok (.inl .separator :: rest.map fun value => .inl (.value value))
    else do return (← classify text) :: (← classifyAll rest)

/-- The words before the first parameter, and each parameter with the words up to the next. -/
def runs (words : List (Item ⊕ Lead)) : List Item × List (Lead × List Item) :=
  words.foldr
    (fun word (run, rest) =>
      match word with
      | .inl item => (item :: run, rest)
      | .inr lead => ([], (lead, run) :: rest))
    ([], [])

/-! ## Values -/

/-- The kinds that values name. -/
def kinds (values : List Text) : Except Misuse (List Kind) :=
  values.mapM fun value =>
    match Kind.all.find? (·.name = value) with
    | some kind => .ok kind
    | none => .error (.badChoice .filter value (Kind.all.map Kind.name))

/-- The format that a value names. -/
def format (value : Text) : Except Misuse Format :=
  match Format.all.find? (·.extension = value) with
  | some format => .ok format
  | none => .error (.badChoice .outputFormat value (Format.all.map Format.extension))

/-- The integer that a value writes. -/
def integer (parameter : Parameter) (value : Text) : Except Misuse Int :=
  match Text.readInt? value with
  | some n => .ok n
  | none => .error (.badInteger parameter value)

/-- The arguments with a switch turned on. -/
def turnOn (arguments : Arguments) : Parameter → Except Ending Arguments
  | .help => .error .help
  | .noFlush => .ok { arguments with noFlush := true }
  | .stats => .ok { arguments with stats := true }
  | .verbose => .ok { arguments with verbose := true }
  | .noColor => .ok { arguments with noColor := true }
  | _ => .ok arguments

/-- The arguments with the value of a parameter that takes one. -/
def setOne (arguments : Arguments) (value : Text) : Parameter → Except Misuse Arguments
  | .outputFormat => do return { arguments with outputFormat := .value (← format value) }
  | .outputFile => .ok { arguments with outputFile := .value value }
  | .outputDir => .ok { arguments with outputDir := .value value }
  | .messagePattern => .ok { arguments with messagePattern := .value value }
  | .config => .ok { arguments with config := .value value }
  | .wrapWidth => do return { arguments with wrapWidth := .value (← integer .wrapWidth value) }
  | .concurrency => do
    return { arguments with concurrency := .value (← integer .concurrency value) }
  | _ => .ok arguments

/-- The arguments with a parameter that takes one value and has a separator in its place. -/
def setBlank (arguments : Arguments) : Parameter → Arguments
  | .outputFormat => { arguments with outputFormat := .blank }
  | .outputFile => { arguments with outputFile := .blank }
  | .outputDir => { arguments with outputDir := .blank }
  | .messagePattern => { arguments with messagePattern := .blank }
  | .config => { arguments with config := .blank }
  | .wrapWidth => { arguments with wrapWidth := .blank }
  | .concurrency => { arguments with concurrency := .blank }
  | _ => arguments

/-- The arguments with the values of the parameter that takes any number. -/
def setAny (arguments : Arguments) (values : List Text) : Except Misuse Arguments := do
  return { arguments with filter := some (← kinds values) }

/-! ## Arguments -/

/-- What part of a command line gives: arguments, and words that mean nothing. -/
structure Progress where
  /-- The arguments so far. -/
  arguments : Arguments := {}
  /-- The words that mean nothing. -/
  extra : List Text := []

/-- Takes a run of words that no parameter takes. The first run with a value in it has the paths of
the log files; its first separator is none of them. -/
def takeRun (progress : Progress) (run : List Item) : Progress :=
  let { arguments, extra } := progress
  if arguments.paths.isEmpty && run.any Item.isValue then
    { arguments := { arguments with paths := (run.erase .separator).map Item.text }, extra }
  else { arguments, extra := extra ++ run.map Item.text }

/-- Takes a parameter with the run of words after it. -/
def takeParameter (progress : Progress) (parameter : Parameter) (value : Option Text)
    (run : List Item) : Except Ending Progress := do
  let { arguments, extra } := progress
  match parameter.arity, value, run with
  | .none, some value, _ => throw (.misuse (.valueIgnored parameter value))
  | .none, none, run =>
    let arguments ← arguments.turnOn parameter
    return takeRun { arguments, extra } run
  | .one, some value, run =>
    let arguments ←
      if value = separatorText then pure (arguments.setBlank parameter)
      else (arguments.setOne value parameter).mapError .misuse
    return takeRun { arguments, extra } run
  | .one, none, .value value :: run =>
    let arguments ← (arguments.setOne value parameter).mapError .misuse
    return takeRun { arguments, extra } run
  | .one, none, _ => throw (.misuse (.valueMissing parameter))
  | .any, some value, run =>
    let values := if value = separatorText then [] else [value]
    let arguments ← (arguments.setAny values).mapError .misuse
    return takeRun { arguments, extra } run
  | .any, none, run =>
    let values := run.takeWhile Item.isValue
    let arguments ← (arguments.setAny (values.map Item.text)).mapError .misuse
    return takeRun { arguments, extra } (run.drop values.length)

/-- Takes a word that looks like a parameter with the run of words after it. -/
def takeLead (progress : Progress) : Lead × List Item → Except Ending Progress
  | (.unknown text, run) =>
    .ok (takeRun { progress with extra := progress.extra ++ [text] } run)
  | (.parameter parameter value, run) => takeParameter progress parameter value run

/-- Reads a command line. -/
def read (line : List Text) : Except Ending Arguments := do
  let (run, leads) := runs (← (classifyAll line).mapError .misuse)
  let { arguments, extra } ← leads.foldlM takeLead (takeRun {} run)
  if arguments.paths.isEmpty then throw (.misuse .pathsMissing)
  if !extra.isEmpty then throw (.misuse (.unrecognized extra))
  return arguments

end Arguments

end TexLog
