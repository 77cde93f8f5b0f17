import TexLog.Command
import TexLog.Command.Arguments
import TexLog.Command.Parameter
import TexLog.Command.Usage
import TexLog.Csv
import TexLog.Export
import TexLog.Failure
import TexLog.Files.Tree
import TexLog.Json.Basic
import TexLog.Json.Reader
import TexLog.Log.Joiner
import TexLog.Log.Reading
import TexLog.Log.RecentLines
import TexLog.Log.Scanner
import TexLog.Main
import TexLog.Pattern.Basic
import TexLog.Pattern.Character
import TexLog.Pattern.Error
import TexLog.Pattern.Escapes
import TexLog.Pattern.Matching
import TexLog.Pattern.Memory
import TexLog.Pattern.Openings
import TexLog.Pattern.Reader
import TexLog.Pattern.Syntax
import TexLog.Pattern.Tokens
import TexLog.Proofs.Boundary
import TexLog.Proofs.Capture
import TexLog.Proofs.Commands
import TexLog.Proofs.Completed
import TexLog.Proofs.CsvRecords
import TexLog.Proofs.Decoding
import TexLog.Proofs.Deliveries
import TexLog.Proofs.DirectScanner
import TexLog.Proofs.Directories
import TexLog.Proofs.Exports
import TexLog.Proofs.Extents
import TexLog.Proofs.Filtering
import TexLog.Proofs.Guarded
import TexLog.Proofs.Holding
import TexLog.Proofs.JoinerCalls
import TexLog.Proofs.LastLocation
import TexLog.Proofs.LineEnds
import TexLog.Proofs.LinePairs
import TexLog.Proofs.LineStyles
import TexLog.Proofs.Members
import TexLog.Proofs.MessageCharacters
import TexLog.Proofs.Numerals
import TexLog.Proofs.Overrides
import TexLog.Proofs.ParameterOrder
import TexLog.Proofs.PrintedJson
import TexLog.Proofs.ProcessOutput
import TexLog.Proofs.Readings
import TexLog.Proofs.RefusedPatterns
import TexLog.Proofs.SettingsFiles
import TexLog.Proofs.StandardRule
import TexLog.Proofs.Succession
import TexLog.Proofs.TouchedFiles
import TexLog.Proofs.Workers
import TexLog.Proofs.WrappedWarning
import TexLog.Proofs.Wrapping
import TexLog.Proofs.WrittenFiles
import TexLog.Proofs.XmlDocuments
import TexLog.Proofs.XmlReports
import TexLog.Report
import TexLog.Report.Filter
import TexLog.Report.Format
import TexLog.Runtime
import TexLog.Settings
import TexLog.Settings.Loading
import TexLog.Settings.Validation
import TexLog.Settings.WrapWidth
import TexLog.Text.Basic
import TexLog.Text.Case
import TexLog.Text.Classes
import TexLog.Text.Lines
import TexLog.Text.Notation
import TexLog.Text.Utf8
import TexLog.Xml
import TexLog.Xml.Reader
