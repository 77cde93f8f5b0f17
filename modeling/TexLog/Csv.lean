import TexLog.Text.Basic
import TexLog.Text.Lines

/-!
# Comma-separated values

Writing records of fields, and reading them.
-/

/-! ## Comma-separated values

Records of fields. A field is written between double quotes, with each quote in it doubled, if it
holds a comma, a quote, a line feed or a carriage return; otherwise as it is. Commas separate the
fields of a record, and every record ends with a carriage return and a line feed.
-/

namespace TexLog.Csv

/-- A record: its fields in order. -/
abbrev Record := List Text

/-- Whether a character would end a field that is not quoted, or begin a quoted one. -/
def isSpecial (c : Char) : Bool := c = ',' || c = '"' || c = '\n' || c = '\r'

/-- A character inside a quoted field. -/
def doubled (c : Char) : Text := if c = '"' then ['"', '"'] else [c]

/-- A written field. -/
def writeField (field : Text) : Text :=
  if field.any isSpecial then '"' :: field.flatMap doubled ++ ['"'] else field

/-- A written record. -/
def writeRecord (record : Record) : Text :=
  Text.joinWith [','] (record.map writeField) ++ ['\r', '\n']

/-- Written records, one after another. -/
def write (records : List Record) : Text := records.flatMap writeRecord

end TexLog.Csv

/-! ## Reading comma-separated values

A text is read one character at a time. A field that begins with a double quote goes on to the next
quote that is not doubled, whatever it holds; in any other field commas and line ends are not part
of it. A record ends at a line feed, at a carriage return, or at both. An empty line is a record
without fields. A text that is cut off in a record ends it there.
-/

namespace TexLog.Csv

/-- Where in a text a reader is. -/
inductive Place
  /-- At the start of a record. -/
  | recordStart
  /-- After a carriage return that ended a record. -/
  | afterReturn
  /-- At the start of a field that is not the first. -/
  | fieldStart
  /-- In a field, outside quotes. -/
  | inField
  /-- In a field, between quotes. -/
  | inQuotes
  /-- After a quote in a quoted field. -/
  | afterQuote
  deriving DecidableEq, Repr

/-- What has been read of a record. -/
structure Reader where
  /-- Where the reader is. -/
  place : Place := .recordStart
  /-- What has been read of the field. -/
  field : Text := []
  /-- The fields before it. -/
  fields : Record := []
  deriving DecidableEq, Repr

namespace Reader

/-- The record, if it ends here. -/
def record (reader : Reader) : Record := reader.fields ++ [reader.field]

/-- The reader after a character of the field. -/
def add (reader : Reader) (c : Char) (place : Place) : Reader :=
  { reader with place, field := reader.field ++ [c] }

/-- The reader after the first character of a line end, which may have two. -/
def afterLineEnd (c : Char) : Reader := { place := if c = '\r' then .afterReturn else .recordStart }

/-- Takes a character where a field may end. -/
def takeOutside (reader : Reader) (c : Char) : Reader × Option Record :=
  if c = ',' then ({ place := .fieldStart, fields := reader.record }, none)
  else if Text.isLineEnd c then (afterLineEnd c, some reader.record)
  else (reader.add c .inField, none)

/-- Takes a character where a field begins. -/
def takeFirst (reader : Reader) (c : Char) : Reader × Option Record :=
  if c = '"' then ({ reader with place := .inQuotes }, none) else reader.takeOutside c

/-- Takes a character where a record begins. -/
def takeStart (reader : Reader) (c : Char) : Reader × Option Record :=
  if Text.isLineEnd c then (afterLineEnd c, some []) else reader.takeFirst c

/-- Takes the next character. The result has the record that ends with it. -/
def take (reader : Reader) (c : Char) : Reader × Option Record :=
  match reader.place with
  | .recordStart => reader.takeStart c
  | .afterReturn => if c = '\n' then ({}, none) else reader.takeStart c
  | .fieldStart => reader.takeFirst c
  | .inField => reader.takeOutside c
  | .inQuotes =>
    if c = '"' then ({ reader with place := .afterQuote }, none) else (reader.add c .inQuotes, none)
  | .afterQuote => if c = '"' then (reader.add c .inQuotes, none) else reader.takeOutside c

/-- The record that the end of the text ends. -/
def finish (reader : Reader) : Option Record :=
  match reader.place with
  | .recordStart | .afterReturn => none
  | _ => some reader.record

/-- The records of a text of which the reader has taken the beginning. -/
def readFrom (reader : Reader) : Text → List Record
  | [] => reader.finish.toList
  | c :: rest => (reader.take c).2.toList ++ (reader.take c).1.readFrom rest

end Reader

/-- The records of a text. -/
def read (text : Text) : List Record := Reader.readFrom {} text

end TexLog.Csv
