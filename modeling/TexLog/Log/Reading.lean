import TexLog.Files.Tree
import TexLog.Log.Scanner

/-!
# Reading logs

Reports on logs that come as lines, as the output of a process, as a text, as bytes, or as files.
Of several files those that cannot be read are left out; each report has the index of its file, so
that the reports can be put in order in whatever order the files are dealt with.
-/

namespace TexLog

/-- Why there is no report on a file. -/
inductive LogError
  /-- There is no such file. -/
  | notFound (path : Path)
  /-- The system refuses to read it for another reason. -/
  | unreadable (path : Path) (cause : Tree.Cause)
  /-- Its path has a null character. -/
  | nullInPath
  /-- Its path has half of a surrogate pair that stands for no byte. -/
  | unencodablePath (path : Path)
  /-- A search for the pattern of errors breaks off in it. -/
  | searchFailed (error : PatternError)
  deriving DecidableEq, Repr

namespace LogError

/-- The words for the lack of a report. -/
def message : LogError → Str
  | notFound path => Str.of "File not found: " ++ path.toStr
  | unreadable path cause =>
    Str.of "Failed to read file " ++ path.toStr ++ Str.of ": " ++
      (Tree.Error.refused cause path).message
  | nullInPath => Tree.Error.nullInFile.message
  | unencodablePath path => (Tree.Error.unencodable path).message
  | searchFailed error => error.message

/-- Whether the file is left out, and not all files with it. -/
def isPassedOver : LogError → Bool
  | notFound _ | unreadable .. => true
  | nullInPath | unencodablePath _ | searchFailed _ => false

/-- What the failure to read a file means for its report. -/
def ofFailure (path : Path) : Tree.Error → LogError
  | .refused .notFound _ => notFound path
  | .refused cause _ => unreadable path cause
  | .nullInFile | .nullInDirectory => nullInPath
  | .unencodable path => unencodablePath path

/-- A file is left out if the system refuses to read it. -/
theorem isPassedOver_ofFailure_refused (path other : Path) (cause : Tree.Cause) :
    (ofFailure path (.refused cause other)).isPassedOver = true := by
  cases cause <;> rfl

/-- A file is not left out if no system call can take its path. -/
theorem isPassedOver_ofFailure_unusable (path : Path) :
    (ofFailure path (.ofUnusable .nullInFile path)).isPassedOver = false := by
  unfold Tree.Error.ofUnusable
  split <;> rfl

end LogError

/-- A report on a file, which is called by its path. -/
abbrev FileReport := ReportOn Str

/-- How logs are read. -/
structure LogReader where
  /-- What is known about the output of the compiler. -/
  settings : Settings := .standard
  /-- Whether a message that is unfinished at the end of a log is reported. -/
  flush : Bool := true

namespace LogReader
variable {Source : Type}

section
variable {m : Type → Type} [Monad m] (look : Scanner → Text → m (Option Diagnostic))

/-- The report of a scan at the end of a log. -/
def closeWith (reader : LogReader) (source : Source) (scanner : Scanner) :
    m (ReportOn Source) := do
  if reader.flush then
    let (scanner, _) ← scanner.finishWith look
    return ⟨source, scanner.received⟩
  else return ⟨source, scanner.received⟩

/-- The report on the lines of a log. -/
def ofLinesWith (reader : LogReader) (source : Source) (lines : List Text) :
    m (ReportOn Source) := do
  let (scanner, _) ← (Scanner.ofSettings reader.settings).feedLinesWith look lines
  reader.closeWith look source scanner

/-- The report on the output of a process. -/
def ofOutputWith (reader : LogReader) (source : Source) (output : List (Channel × Text)) :
    m (ReportOn Source) := do
  let scanner ← output.foldlM
    (fun scanner (channel, text) => do return (← scanner.feedFromWith look channel text).1)
    (Scanner.ofSettings reader.settings)
  reader.closeWith look source scanner

end

/-! ## Reports of which every search is answered -/

/-- The report of a scan at the end of a log. -/
def close (reader : LogReader) (source : Source) (scanner : Scanner) : ReportOn Source where
  source := source
  diagnostics := (if reader.flush then scanner.finish.1 else scanner).received

/-- The report on the lines of a log. -/
def ofLines (reader : LogReader) (source : Source) (lines : List Text) : ReportOn Source :=
  Id.run (reader.ofLinesWith Scanner.answer source lines)

/-- The report on the output of a process. -/
def ofOutput (reader : LogReader) (source : Source) (output : List (Channel × Text)) :
    ReportOn Source :=
  Id.run (reader.ofOutputWith Scanner.answer source output)

/-- The report on a whole log. -/
def ofText (reader : LogReader) (source : Source) (text : Text) : ReportOn Source :=
  reader.ofLines source text.lines

/-- The report on the contents of a file. -/
def ofBytes (reader : LogReader) (source : Source) (bytes : Bytes) : ReportOn Source :=
  reader.ofText source (Utf8.decode bytes)

/-- A scan whose searches are answered ends with its report. -/
theorem closeWith_answer (reader : LogReader) (source : Source) (scanner : Scanner) :
    Id.run (reader.closeWith Scanner.answer source scanner) = reader.close source scanner := by
  unfold closeWith close
  split <;> rfl

/-- The report on lines is that of a scan that has taken them. -/
theorem ofLines_eq (reader : LogReader) (source : Source) (lines : List Text) :
    reader.ofLines source lines =
      reader.close source ((Scanner.ofSettings reader.settings).feedLines lines).1 :=
  reader.closeWith_answer source _

/-! ## Reports of which a search may break off -/

/-- What comes of the lines of a log. -/
def tryLines (reader : LogReader) (source : Source) (lines : List Text) :
    Except PatternError (ReportOn Source) :=
  (reader.ofLinesWith Scanner.attempt source lines).mapError (·.error)

/-- What comes of the output of a process. -/
def tryOutput (reader : LogReader) (source : Source) (output : List (Channel × Text)) :
    Except PatternError (ReportOn Source) :=
  (reader.ofOutputWith Scanner.attempt source output).mapError (·.error)

/-- What comes of a whole log. -/
def tryText (reader : LogReader) (source : Source) (text : Text) :
    Except PatternError (ReportOn Source) :=
  reader.tryLines source text.lines

/-- What comes of the contents of a file. -/
def tryBytes (reader : LogReader) (source : Source) (bytes : Bytes) :
    Except PatternError (ReportOn Source) :=
  reader.tryText source (Utf8.decode bytes)

/-! ## Files -/

/-- The report on a file. -/
def ofFile (reader : LogReader) (tree : Tree) (path : Path) :
    Except LogError FileReport := do
  let bytes ← (tree.read path).mapError (.ofFailure path)
  (reader.tryBytes path.toStr bytes).mapError .searchFailed

/-- A file that can be read is reported on as the text of its bytes. -/
theorem ofFile_of_read (reader : LogReader) {tree : Tree} {path : Path} {bytes : Bytes}
    (hread : tree.read path = .ok bytes) :
    reader.ofFile tree path = (reader.tryBytes path.toStr bytes).mapError .searchFailed := by
  rw [ofFile, hread]
  rfl

/-- There is no report on a file that cannot be read. -/
theorem ofFile_of_read_error (reader : LogReader) {tree : Tree} {path : Path} {error : Tree.Error}
    (hread : tree.read path = .error error) :
    reader.ofFile tree path = .error (.ofFailure path error) := by
  rw [ofFile, hread]
  rfl

/-- What came of a file, with the index of the file. -/
abbrev Outcome := Nat × Except LogError FileReport

/-- Puts a report where its index belongs; a later report of one index takes the place of an earlier
one. -/
def place (index : Nat) (report : FileReport) :
    List (Nat × FileReport) → List (Nat × FileReport)
  | [] => [(index, report)]
  | (other, kept) :: rest =>
    if index < other then (index, report) :: (other, kept) :: rest
    else if index = other then (index, report) :: rest
    else (other, kept) :: place index report rest

/-- The reports in order of their indices, and with them what came of one more file. -/
def collect (placed : List (Nat × FileReport)) :
    Outcome → Except LogError (List (Nat × FileReport))
  | (index, .ok report) => .ok (place index report placed)
  | (_, .error error) => if error.isPassedOver then .ok placed else .error error

/-- The reports in order of their indices, from outcomes in the order in which they came. -/
def gather (outcomes : List Outcome) : Except LogError (List FileReport) :=
  (outcomes.foldlM collect []).map (·.map Prod.snd)

/-- What comes of files, in their order. -/
def outcomes (reader : LogReader) (tree : Tree) (paths : List Path) : List Outcome :=
  paths.zipIdx.map fun (path, index) => (index, reader.ofFile tree path)

/-- The reports on the files that can be read, in their order. -/
def ofFiles (reader : LogReader) (tree : Tree) (paths : List Path) :
    Except LogError (List FileReport) :=
  gather (reader.outcomes tree paths)

end LogReader

end TexLog
