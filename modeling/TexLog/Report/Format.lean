import TexLog.Csv
import TexLog.Json.Basic
import TexLog.Report
import TexLog.Xml

/-!
# Report formats

How a report is written to a file: as JSON, as comma-separated values with one record for each
diagnostic, or as XML.
-/

namespace TexLog

/-- A format of report files. -/
inductive Format
  /-- An object with the source and the diagnostics. -/
  | json
  /-- A header and a record for each diagnostic. -/
  | csv
  /-- A document with numbers about the report and its diagnostics. -/
  | xml
  deriving DecidableEq, Repr

namespace Format

/-- The formats in the order in which they are listed. -/
def all : List Format := [json, csv, xml]

/-- The name of a format. -/
def name : Format → Text
  | json => "JSON".toList
  | csv => "CSV".toList
  | xml => "XML".toList

/-- The extension of the names of report files. -/
def extension : Format → Text
  | json => "json".toList
  | csv => "csv".toList
  | xml => "xml".toList

/-- The capital of a letter if that is a basic Latin letter; two such capitals have a small letter
of other alphabets besides their own. -/
def capital (c : Char) : Char :=
  if c = 'ſ' then 'S' else if c = 'ı' then 'I' else c.toUpper

/-- The format with the given name, whatever its case. -/
def ofName? (name : Text) : Option Format :=
  all.find? fun format => format.name == name.map capital

/-- Something that is no format: a name that no format has, or no name at all. -/
structure Unsupported where
  /-- How it is shown. -/
  shown : Text
  /-- Whether it is a name. -/
  isName : Bool := true
  deriving DecidableEq, Repr

/-- The words for something that is no format. -/
def Unsupported.message (unsupported : Unsupported) : Text :=
  "Unsupported output format: ".toList ++ unsupported.shown

/-- The format with the given name, or why there is none. -/
def ofName (name : Text) : Except Unsupported Format :=
  match ofName? name with
  | some format => .ok format
  | none => .error { shown := name }

end Format

namespace Diagnostic

/-- A diagnostic as a JSON value. -/
def toJson (diagnostic : Diagnostic) : Json := .object [
  ("kind".toList, .string diagnostic.kind.name), ("message".toList, .string diagnostic.message)]

/-- A diagnostic as a record, with the source of its report. -/
def toRecord (diagnostic : Diagnostic) (source : Text) : Csv.Record :=
  [source, diagnostic.kind.name, diagnostic.message]

/-- A diagnostic as an element. -/
def toXml (diagnostic : Diagnostic) : Xml :=
  .element "Diagnostic".toList [("kind".toList, diagnostic.kind.name)] diagnostic.message []

end Diagnostic

namespace Report

/-- A report as a JSON value. -/
def toJson (report : Report) : Json := .object [
  ("source".toList, .string report.source),
  ("diagnostics".toList, .array (report.diagnostics.map Diagnostic.toJson))]

/-- The names of the fields of a record. -/
def header : Csv.Record := ["source".toList, "kind".toList, "message".toList]

/-- A report as records. -/
def toRecords (report : Report) : List Csv.Record :=
  header :: report.diagnostics.map (·.toRecord report.source)

/-- A report as an element. -/
def toXml (report : Report) : Xml :=
  .branch "LatexLog".toList [
    .branch "Metadata".toList [
      .leaf "Source".toList report.source,
      .leaf "ErrorCount".toList (Text.ofNat report.errors.length),
      .leaf "WarningCount".toList (Text.ofNat report.warnings.length)],
    .branch "Diagnostics".toList (report.diagnostics.map Diagnostic.toXml)]

/-- A report in a format. -/
def write (report : Report) : Format → Text
  | .json => report.toJson.print 2 0
  | .csv => Csv.write report.toRecords
  | .xml => report.toXml.writeDocument

end Report

end TexLog
