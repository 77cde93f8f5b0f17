import TexLog.Csv
import TexLog.Proofs.WrittenFiles

/-!
# Reading written records

Records of comma-separated values are read as they were written (`Csv.read_write`), unless a record
has no field or only an empty one: what is written for it is an empty line. A field that is not
quoted has no character that would end it, and in a quoted one every quote is doubled, so a written
field leaves the reader at the end of this field, with its text (`Reader.readFrom_writeField`).
-/

namespace TexLog.Csv

/-- A record of one field is written as this field. -/
theorem joinWith_singleton (field : Text) :
    Text.joinWith [','] ([field].map writeField) = writeField field := by
  simp [Text.joinWith]

/-- A record of several fields is written with a comma after the first. -/
theorem joinWith_cons_cons (field next : Text) (later : Record) :
    Text.joinWith [','] ((field :: next :: later).map writeField) =
      writeField field ++ ',' :: Text.joinWith [','] ((next :: later).map writeField) := by
  simp [Text.joinWith, List.intercalate]

namespace Reader

/-- At the end of a field that can end here. -/
def AtEnd (place : Place) : Prop := place = .fieldStart ∨ place = .inField ∨ place = .afterQuote

variable {fields : Record} {field rest : Text} {place : Place}

/-- Reading takes one character after the other. -/
theorem readFrom_cons (reader : Reader) (c : Char) (rest : Text) :
    reader.readFrom (c :: rest) = (reader.take c).2.toList ++ (reader.take c).1.readFrom rest := rfl

/-- What is neither special nor first in its field is added to it. -/
theorem readFrom_plain {text : Text} (hplain : ∀ c ∈ text, isSpecial c = false) :
    readFrom ⟨.inField, field, fields⟩ (text ++ rest) =
      readFrom ⟨.inField, field ++ text, fields⟩ rest := by
  induction text generalizing field with
  | nil => simp
  | cons c text ih =>
    obtain ⟨hc, htext⟩ := List.forall_mem_cons.1 hplain
    have htake : take ⟨.inField, field, fields⟩ c = (⟨.inField, field ++ [c], fields⟩, none) := by
      simp [isSpecial] at hc
      simp [take, takeOutside, add, Text.isLineEnd, hc]
    rw [List.cons_append, readFrom_cons, htake]
    simpa using @ih (field ++ [c]) htext

/-- Between quotes a text with its quotes doubled is added to the field. -/
theorem readFrom_doubled (text : Text) :
    readFrom ⟨.inQuotes, field, fields⟩ (text.flatMap doubled ++ rest) =
      readFrom ⟨.inQuotes, field ++ text, fields⟩ rest := by
  induction text generalizing field with
  | nil => simp
  | cons c text ih =>
    have hchar : readFrom ⟨.inQuotes, field, fields⟩ (doubled c ++ (text.flatMap doubled ++ rest)) =
        readFrom ⟨.inQuotes, field ++ [c], fields⟩ (text.flatMap doubled ++ rest) := by
      by_cases hc : c = '"' <;> simp [doubled, hc, readFrom_cons, take, add]
    rw [List.flatMap_cons, List.append_assoc, hchar, ih]
    simp

/-- **A written field is read up to its end.** -/
theorem readFrom_writeField (field : Text) (rest : Text) :
    ∃ place, AtEnd place ∧ readFrom ⟨.fieldStart, [], fields⟩ (writeField field ++ rest) =
      readFrom ⟨place, field, fields⟩ rest := by
  unfold writeField
  split
  · refine ⟨.afterQuote, .inr (.inr rfl), ?_⟩
    have hopening : take ⟨.fieldStart, [], fields⟩ '"' = (⟨.inQuotes, [], fields⟩, none) := rfl
    have hclosing : take ⟨.inQuotes, field, fields⟩ '"' = (⟨.afterQuote, field, fields⟩, none) :=
      rfl
    simp only [List.cons_append, List.append_assoc, readFrom_cons, hopening, readFrom_doubled,
      List.nil_append, hclosing, Option.toList_none]
  · next hspecial =>
    have hplain : ∀ c ∈ field, isSpecial c = false := by simpa using hspecial
    cases field with
    | nil => exact ⟨.fieldStart, .inl rfl, rfl⟩
    | cons c text =>
      refine ⟨.inField, .inr (.inl rfl), ?_⟩
      obtain ⟨hc, htext⟩ := List.forall_mem_cons.1 hplain
      have htake : take ⟨.fieldStart, [], fields⟩ c = (⟨.inField, [c], fields⟩, none) := by
        simp [isSpecial] at hc
        simp [take, takeFirst, takeOutside, add, Text.isLineEnd, hc]
      have hlater : readFrom ⟨.inField, [c], fields⟩ (text ++ rest) =
          readFrom ⟨.inField, [c] ++ text, fields⟩ rest := readFrom_plain htext
      rw [List.cons_append, readFrom_cons, htake]
      exact hlater

/-- A comma ends a field. -/
theorem readFrom_comma (hplace : AtEnd place) :
    readFrom ⟨place, field, fields⟩ (',' :: rest) =
      readFrom ⟨.fieldStart, [], fields ++ [field]⟩ rest := by
  rcases hplace with rfl | rfl | rfl <;> rfl

/-- A line end ends a record. -/
theorem readFrom_lineEnd (hplace : AtEnd place) :
    readFrom ⟨place, field, fields⟩ ('\r' :: '\n' :: rest) =
      (fields ++ [field]) :: readFrom {} rest := by
  rcases hplace with rfl | rfl | rfl <;> rfl

/-- Written fields are read as the rest of a record. -/
theorem readFrom_fields (field : Text) (later : Record) (rest : Text) :
    readFrom ⟨.fieldStart, [], fields⟩
        (Text.joinWith [','] ((field :: later).map writeField) ++ '\r' :: '\n' :: rest) =
      (fields ++ field :: later) :: readFrom {} rest := by
  induction later generalizing fields field with
  | nil =>
    obtain ⟨place, hplace, hfield⟩ := readFrom_writeField field ('\r' :: '\n' :: rest)
    rw [joinWith_singleton, hfield, readFrom_lineEnd hplace]
  | cons next later ih =>
    obtain ⟨place, hplace, hfield⟩ := readFrom_writeField field
      (',' :: (Text.joinWith [','] ((next :: later).map writeField) ++ '\r' :: '\n' :: rest))
    rw [joinWith_cons_cons, List.append_assoc, List.cons_append, hfield, readFrom_comma hplace, ih]
    simp

/-- A record begins with a field. -/
theorem readFrom_start {c : Char} (hc : Text.isLineEnd c = false) :
    readFrom {} (c :: rest) = readFrom ⟨.fieldStart, [], []⟩ (c :: rest) := by
  simp only [readFrom_cons, take, takeStart, hc, takeFirst, takeOutside, add, record]
  rfl

end Reader

/-- A field that is not empty is written as a text that begins with no line end. -/
theorem exists_writeField_eq_cons {field : Text} (hne : field ≠ []) :
    ∃ c rest, writeField field = c :: rest ∧ Text.isLineEnd c = false := by
  unfold writeField
  split
  · exact ⟨'"', _, rfl, rfl⟩
  · next hspecial =>
    obtain ⟨c, rest, rfl⟩ := List.exists_cons_of_ne_nil hne
    refine ⟨c, rest, rfl, ?_⟩
    have hc : isSpecial c = false := by simp_all
    simp [isSpecial] at hc
    simp [Text.isLineEnd, hc]

/-- A record whose written form is no empty line. -/
def Visible (record : Record) : Prop := record ≠ [] ∧ record ≠ [[]]

/-- The fields of a record are written as a text that begins with no line end. -/
theorem Visible.exists_eq_cons {record : Record} (hvisible : Visible record) :
    ∃ c rest, Text.joinWith [','] (record.map writeField) = c :: rest ∧
      Text.isLineEnd c = false := by
  match record, hvisible with
  | [field], ⟨_, hne⟩ =>
    rw [joinWith_singleton]
    exact exists_writeField_eq_cons (by simpa using hne)
  | [] :: next :: later, _ => exact ⟨',', _, joinWith_cons_cons [] next later, rfl⟩
  | (d :: field) :: next :: later, _ =>
    obtain ⟨c, rest, hfield, hc⟩ := exists_writeField_eq_cons (List.cons_ne_nil d field)
    rw [joinWith_cons_cons, hfield]
    exact ⟨c, _, rfl, hc⟩

/-- A written record is read as it was written. -/
theorem readFrom_writeRecord {record : Record} (hvisible : Visible record) (rest : Text) :
    Reader.readFrom {} (writeRecord record ++ rest) = record :: Reader.readFrom {} rest := by
  obtain ⟨c, text, htext, hc⟩ := hvisible.exists_eq_cons
  obtain ⟨field, later, rfl⟩ := List.exists_cons_of_ne_nil hvisible.1
  have hfields : Reader.readFrom ⟨.fieldStart, [], []⟩ _ = _ :=
    Reader.readFrom_fields field later rest
  rw [htext, List.cons_append, ← Reader.readFrom_start hc] at hfields
  rw [writeRecord, htext, List.append_assoc]
  exact hfields

/-- **Records are read as they were written.** -/
theorem read_write {records : List Record} (hvisible : ∀ record ∈ records, Visible record) :
    read (write records) = records := by
  induction records with
  | nil => rfl
  | cons record records ih =>
    obtain ⟨hrecord, hrecords⟩ := List.forall_mem_cons.1 hvisible
    rw [write, List.flatMap_cons, read, readFrom_writeRecord hrecord]
    exact congrArg _ (ih hrecords)

/-! ## Reports -/

/-- **Written records give the diagnostics back.** In a file to which a report was written as
comma-separated values stand the header and a record for each diagnostic, in order, with the source,
the kind and the message as they are. -/
theorem read_written_report {report : Report} {output : Path} {before after : World}
    (h : (Export.writeReport report (.ok .csv) output).run before = (.ok (), after)) :
    (after.files.text? output).map read =
      some (["source".toList, "kind".toList, "message".toList] ::
        report.diagnostics.map fun diagnostic =>
          [report.source, diagnostic.kind.name, diagnostic.message]) := by
  have hvisible : ∀ record ∈ report.toRecords, Visible record := by
    intro record hrecord
    rcases List.mem_cons.1 hrecord with rfl | hlater
    · exact ⟨List.cons_ne_nil _ _, by simp [Report.header]⟩
    · obtain ⟨diagnostic, -, rfl⟩ := List.mem_map.1 hlater
      exact ⟨List.cons_ne_nil _ _, by simp [Diagnostic.toRecord]⟩
  rw [Export.text?_writeReport h]
  exact congrArg some (read_write hvisible)

/-- A source with a comma and messages with quotes, with line ends of every style, and without any
character. -/
theorem read_written_report_special :
    let report : Report := ⟨"a,b\".log".toList, [⟨.error, "\"\r\"".toList⟩,
      ⟨.warning, "x\ny\r\n,".toList⟩, ⟨.error, []⟩]⟩
    let written :=
      (Export.writeReport report (.ok .csv) ⟨[], ["out.csv".toList]⟩).run { files := {} }
    written.1 = .ok () ∧
      (written.2.files.text? ⟨[], ["out.csv".toList]⟩).map read =
        some [["source".toList, "kind".toList, "message".toList],
          ["a,b\".log".toList, "error".toList, "\"\r\"".toList],
          ["a,b\".log".toList, "warning".toList, "x\ny\r\n,".toList],
          ["a,b\".log".toList, "error".toList, []]] := by
  intro report written
  have hwritten : written = (.ok (), written.2) := rfl
  exact ⟨rfl, read_written_report hwritten⟩

end TexLog.Csv
