import TexLog.Proofs.MessageCharacters
import TexLog.Proofs.WrittenFiles
import TexLog.Proofs.XmlDocuments

/-!
# Reading reports from XML documents

A document about a log says where the diagnostics come from, how many of each kind there are, and
what each of them is (`LogDocument`). The document that is written for the report on a log file says
this of the report (`Xml.read_report_document`), if documents may have the characters of the report;
else no reader accepts it. The characters of messages are those of the log, which may be any, such
as form feeds. Messages have no carriage returns, so they come back as they are, but the source is a
path, and a carriage return in it is read as a line feed.
-/

namespace TexLog

/-- What a document says about a log. -/
structure LogDocument where
  /-- Where the diagnostics come from. -/
  source : Text
  /-- How many errors there are. -/
  errors : Nat
  /-- How many warnings there are. -/
  warnings : Nat
  /-- The kind and the message of each diagnostic, in order. -/
  diagnostics : List (Text × Text)
  deriving DecidableEq, Repr

namespace LogDocument

/-- The number that stands in an element. -/
def number? (node : Xml.Node) : Option Nat := do
  let digits ← node.text?
  if digits ≠ [] ∧ digits.all Char.isDigit then return Text.numeral 10 digits else none

/-- The kind and the message of the diagnostic that stands in an element. -/
def diagnostic? (node : Xml.Node) : Option (Text × Text) := do
  return (← node.attribute? "kind".toList, ← node.text?)

/-- What the document with a root element says about a log, if it is such a document. -/
def ofRoot? (root : Xml.Node) : Option LogDocument :=
  match root.elements "Metadata".toList, root.elements "Diagnostics".toList with
  | [metadata], [found] =>
    match metadata.elements "Source".toList, metadata.elements "ErrorCount".toList,
      metadata.elements "WarningCount".toList with
    | [source], [errors], [warnings] => do
      return {
        source := ← source.text?
        errors := ← number? errors
        warnings := ← number? warnings
        diagnostics := ← (found.elements "Diagnostic".toList).mapM diagnostic? }
    | _, _, _ => none
  | _, _ => none

end LogDocument

namespace Xml

/-- The text of an element without elements in it is the text that was written. -/
theorem text?_textPart (name : Text) (attributes : List (Text × Text)) (text : Text) :
    (Node.element name attributes (textPart text)).text? = some text := by
  unfold textPart
  split
  · subst_vars; rfl
  · rfl

/-- The elements in an element are read one by one. -/
theorem toNodes_unifiedAll (children : List Xml) :
    toNodes (unifiedAll children) = children.map fun child => child.unified.toNode := by
  induction children with
  | nil => rfl
  | cons child children ih => rw [unifiedAll, toNodes, ih, List.map_cons]

/-- What is read of a leaf is its text with unified line ends. -/
theorem toNode_leaf (name text : Text) :
    (leaf name text).unified.toNode = .element name [] (textPart text.unifyLineEnds) := by
  rw [leaf, unified, toNode, toNodes_unifiedAll]
  simp

/-- What is read of a branch are its elements. -/
theorem toNode_branch (name : Text) (children : List Xml) :
    (branch name children).unified.toNode =
      .element name [] (children.map fun child => child.unified.toNode) := by
  rw [branch, unified, toNode, toNodes_unifiedAll]
  rfl

/-- A leaf is proper if its name is one. -/
theorem Proper.leaf {name : Text} (hname : isName name = true) (text : Text) :
    (leaf name text).Proper :=
  .element ⟨hname, by simp, by simp⟩ text (by simp)

/-- A branch is proper if its name is one and its elements are proper. -/
theorem Proper.branch {name : Text} {children : List Xml} (hname : isName name = true)
    (hchildren : ∀ child ∈ children, child.Proper) : (branch name children).Proper :=
  .element ⟨hname, by simp, by simp⟩ [] hchildren

/-- Documents may have digits. -/
theorem isChar_of_isDigit {c : Char} (hc : c.isDigit = true) : isChar c = true := by
  have hfirst : c ≠ '\ufffe' := Text.ne_of_isDigit hc (by decide)
  have hsecond : c ≠ '\uffff' := Text.ne_of_isDigit hc (by decide)
  have hle : ' ' ≤ c := by
    simp only [Char.isDigit, Bool.and_eq_true, decide_eq_true_eq] at hc
    exact Char.le_trans (by decide) hc.1
  simp [isChar, hle, hfirst, hsecond]

/-- What is in several elements is what is in each of them. -/
theorem contentsAll_eq_flatMap (children : List Xml) :
    contentsAll children = children.flatMap contents := by
  induction children with
  | nil => rfl
  | cons child children ih => rw [contentsAll, ih, List.flatMap_cons]

end Xml

namespace Diagnostic

/-- A diagnostic is written as a proper element. -/
theorem proper_toXml (diagnostic : Diagnostic) : diagnostic.toXml.Proper :=
  .element ⟨by decide, by simp; decide, by simp⟩ _ (by simp)

/-- What is read of the element of a diagnostic. -/
theorem toNode_toXml (diagnostic : Diagnostic) :
    diagnostic.toXml.unified.toNode = .element "Diagnostic".toList
      [("kind".toList, diagnostic.kind.name)] (Xml.textPart diagnostic.message.unifyLineEnds) := by
  rw [toXml, Xml.unified, Xml.toNode, Xml.toNodes_unifiedAll]
  simp

/-- The element of a diagnostic gives its kind and its message. -/
theorem diagnostic?_toXml (diagnostic : Diagnostic) :
    LogDocument.diagnostic? diagnostic.toXml.unified.toNode =
      some (diagnostic.kind.name, diagnostic.message.unifyLineEnds) := by
  rw [toNode_toXml, LogDocument.diagnostic?, Xml.text?_textPart]
  rfl

end Diagnostic

namespace LogDocument

/-- A number in a leaf is read as it was written. -/
theorem number?_leaf (name : Text) (n : Nat) :
    number? (Xml.leaf name (Text.ofNat n)).unified.toNode = some n := by
  have hunified := Text.unifyLineEnds_of_not_mem (Text.return_not_mem_ofNat n)
  have hdigits : ∀ c ∈ Text.ofNat n, c.isDigit = true := fun _ => Text.isDigit_of_mem_ofNat
  rw [Xml.toNode_leaf, number?, Xml.text?_textPart, hunified]
  simpa [Text.ofNat_ne_nil, Text.numeral_ofNat] using hdigits

/-- A text in a leaf is read with its line ends unified. -/
theorem text?_leaf (name text : Text) :
    (Xml.leaf name text).unified.toNode.text? = some text.unifyLineEnds := by
  rw [Xml.toNode_leaf, Xml.text?_textPart]

end LogDocument

namespace Report

/-- What the document of a report says: the texts of the report, with their line ends unified. -/
def toDocument (report : Report) : LogDocument where
  source := report.source.unifyLineEnds
  errors := report.errors.length
  warnings := report.warnings.length
  diagnostics := report.diagnostics.map fun diagnostic =>
    (diagnostic.kind.name, diagnostic.message.unifyLineEnds)

/-- A report is written as a proper element. -/
theorem proper_toXml (report : Report) : report.toXml.Proper := by
  have hdiagnostics : ∀ child ∈ report.diagnostics.map Diagnostic.toXml, child.Proper := by
    intro child hchild
    obtain ⟨diagnostic, -, rfl⟩ := List.mem_map.1 hchild
    exact diagnostic.proper_toXml
  refine .branch (by decide) ?_
  simp only [List.forall_mem_cons]
  refine ⟨.branch (by decide) ?_, .branch (by decide) hdiagnostics, by simp⟩
  simp only [List.forall_mem_cons]
  exact ⟨.leaf (by decide) _, .leaf (by decide) _, .leaf (by decide) _, by simp⟩

/-- The root element of the document of a report. -/
theorem toNode_toXml (report : Report) :
    report.toXml.unified.toNode = .element "LatexLog".toList [] [
      .element "Metadata".toList [] [
        (Xml.leaf "Source".toList report.source).unified.toNode,
        (Xml.leaf "ErrorCount".toList (Text.ofNat report.errors.length)).unified.toNode,
        (Xml.leaf "WarningCount".toList (Text.ofNat report.warnings.length)).unified.toNode],
      .element "Diagnostics".toList []
        (report.diagnostics.map fun diagnostic => diagnostic.toXml.unified.toNode)] := by
  simp only [toXml, Xml.toNode_branch, List.map_cons, List.map_nil, List.map_map]
  rfl

/-- The document of a report says what the report says. -/
theorem ofRoot?_toXml (report : Report) :
    LogDocument.ofRoot? report.toXml.unified.toNode = some report.toDocument := by
  let found := report.diagnostics.map fun diagnostic => diagnostic.toXml.unified.toNode
  have hdiagnostics : found.mapM LogDocument.diagnostic? = some report.toDocument.diagnostics := by
    rw [List.mapM_map, Function.comp_def, funext Diagnostic.diagnostic?_toXml]
    exact List.mapM_pure
  have hfound : (Xml.Node.element "Diagnostics".toList [] found).elements
      "Diagnostic".toList = found := by
    refine List.filter_eq_self.2 fun node hnode => ?_
    obtain ⟨diagnostic, -, rfl⟩ := List.mem_map.1 hnode
    rw [diagnostic.toNode_toXml]
    rfl
  rw [toNode_toXml]
  show (do
    return ({
      source := ← (Xml.leaf "Source".toList report.source).unified.toNode.text?
      errors := ← LogDocument.number?
        (Xml.leaf "ErrorCount".toList (Text.ofNat report.errors.length)).unified.toNode
      warnings := ← LogDocument.number?
        (Xml.leaf "WarningCount".toList (Text.ofNat report.warnings.length)).unified.toNode
      diagnostics := ← ((Xml.Node.element "Diagnostics".toList [] found).elements
        "Diagnostic".toList).mapM LogDocument.diagnostic? } : LogDocument)) = _
  rw [LogDocument.text?_leaf, LogDocument.number?_leaf, LogDocument.number?_leaf, hfound,
    hdiagnostics]
  rfl

/-- Documents may have what is written of a report if they may have its source and its messages. -/
theorem all_contents_toXml (report : Report) :
    report.toXml.contents.all (·.all Xml.isChar) = (report.source.all Xml.isChar &&
      report.diagnostics.all (·.message.all Xml.isChar)) := by
  have hnumber : ∀ n, (Text.ofNat n).all Xml.isChar = true := fun n =>
    List.all_eq_true.2 fun _ hc => Xml.isChar_of_isDigit (Text.isDigit_of_mem_ofNat hc)
  have hkind : ∀ kind : Kind, kind.name.all Xml.isChar = true := by
    intro kind
    cases kind <;> decide
  have hdiagnostic (diagnostic : Diagnostic) :
      diagnostic.toXml.contents.all (·.all Xml.isChar) = diagnostic.message.all Xml.isChar := by
    simp [Diagnostic.toXml, Xml.contents, Xml.contentsAll, hkind]
  simp [toXml, Xml.branch, Xml.leaf, Xml.contents, Xml.contentsAll, Xml.contentsAll_eq_flatMap,
    List.all_flatMap, hnumber, hdiagnostic, Function.comp_def]

/-- The document of a report is accepted if documents may have its characters. -/
theorem isSome_read_write (report : Report) :
    (Xml.read (report.write .xml)).isSome = true ↔
      (∀ c ∈ report.source, Xml.isChar c = true) ∧
        ∀ diagnostic ∈ report.diagnostics, ∀ c ∈ diagnostic.message, Xml.isChar c = true := by
  have hfits : (report.source.all Xml.isChar &&
        report.diagnostics.all (·.message.all Xml.isChar)) = true ↔
      (∀ c ∈ report.source, Xml.isChar c = true) ∧
        ∀ diagnostic ∈ report.diagnostics, ∀ c ∈ diagnostic.message, Xml.isChar c = true := by
    simp only [Bool.and_eq_true, List.all_eq_true]
  rw [write, Xml.read_writeDocument report.proper_toXml, all_contents_toXml, ← hfits]
  generalize (report.source.all Xml.isChar &&
    report.diagnostics.all (·.message.all Xml.isChar)) = fits
  cases fits <;> simp

/-- What is read of the document of a report says what the report says. -/
theorem ofRoot?_of_read {report : Report} {root : Xml.Node}
    (hread : Xml.read (report.write .xml) = some root) :
    LogDocument.ofRoot? root = some report.toDocument := by
  rw [write, Xml.read_writeDocument report.proper_toXml] at hread
  split at hread
  · obtain rfl := Option.some.inj hread
    exact report.ofRoot?_toXml
  · cases hread

end Report

namespace Xml

/-- **Which documents give the report back.** The document of a report on a log file is accepted
exactly if the source, which is the path of the file, and the messages have only characters that
documents may have, which is the case if the path and the log have only such characters. Then it
says how many errors and warnings there are and the kind and the message of each, as they are, and
the source with its line ends unified. -/
theorem read_report_document {reader : LogReader} {tree : Tree} {path output : Path}
    {report : Report} {before after : World}
    (hreport : reader.ofFile tree path = .ok ⟨report.source, report.diagnostics⟩)
    (h : (Export.writeReport report (.ok .xml) output).run before = (.ok (), after)) :
    path.toStr = report.source ∧
    ∃ document, after.files.text? output = some document ∧
      ((read document).isSome = true ↔ (∀ c ∈ report.source, isChar c = true) ∧
        ∀ diagnostic ∈ report.diagnostics, ∀ c ∈ diagnostic.message, isChar c = true) ∧
      ((∀ c ∈ report.source, isChar c = true) →
        (∀ bytes, tree.read path = .ok bytes → ∀ c ∈ Utf8.decode bytes, isChar c = true) →
        (read document).isSome = true) ∧
      ∀ root, read document = some root →
        LogDocument.ofRoot? root = some {
          source := report.source.unifyLineEnds
          errors := report.errors.length
          warnings := report.warnings.length
          diagnostics := report.diagnostics.map fun diagnostic =>
            (diagnostic.kind.name, diagnostic.message) } := by
  obtain ⟨bytes, hbytes, hreads⟩ := LogReader.exists_of_ofFile hreport
  have hsource : path.toStr = report.source := by
    rw [reader.ofText_eq] at hreads
    exact (congrArg ReportOn.source hreads).symm
  have hdiagnostics : report.diagnostics =
      (reader.ofText path.toStr (Utf8.decode bytes)).diagnostics :=
    congrArg ReportOn.diagnostics hreads
  have hcharacters {diagnostic : Diagnostic} (hdiagnostic : diagnostic ∈ report.diagnostics) :=
    fun c => LogReader.mem_of_mem_message (hdiagnostics ▸ hdiagnostic) (c := c)
  refine ⟨hsource, _, Export.text?_writeReport h, Report.isSome_read_write _, ?_, ?_⟩
  · intro hpath hlog
    exact (Report.isSome_read_write _).2 ⟨hpath, fun diagnostic hdiagnostic c hc =>
      hlog bytes hbytes c (hcharacters hdiagnostic c hc).1⟩
  · intro root hroot
    rw [Report.ofRoot?_of_read hroot, Report.toDocument]
    congr 2
    refine List.map_congr_left fun diagnostic hdiagnostic => ?_
    have hreturn : '\r' ∉ diagnostic.message := fun hmem =>
      absurd (hcharacters hdiagnostic '\r' hmem).2 (by decide)
    rw [Text.unifyLineEnds_of_not_mem hreturn]

/-- A path and messages with what begins markup, and with what ends a section. -/
theorem read_report_document_markup :
    let path : Path := ⟨[], [Str.of "a&b.log"]⟩
    let output : Path := ⟨[], [Str.of "out.xml"]⟩
    let log := "x:1: <y> & ]]>\r\nLaTeX Warning: \"é\"".toList
    let tree : Tree :=
      { entries := [([Utf8.encode "a&b.log".toList], .file (Utf8.encode log))] }
    let report : Report := ⟨"a&b.log".toList,
      [⟨.error, "<y> & ]]>".toList⟩, ⟨.warning, "LaTeX Warning: \"é\"".toList⟩]⟩
    let written := (Export.writeReport report (.ok .xml) output).run { files := tree }
    ({} : LogReader).ofFile tree path = .ok ⟨report.source, report.diagnostics⟩ ∧
      written.1 = .ok () ∧
      ∃ document root, written.2.files.text? output = some document ∧
        read document = some root ∧
        LogDocument.ofRoot? root = some ⟨"a&b.log".toList, 1, 1,
          [("error".toList, "<y> & ]]>".toList),
            ("warning".toList, "LaTeX Warning: \"é\"".toList)]⟩ := by
  intro path output log tree report written
  have hreport : ({} : LogReader).ofFile tree path =
      .ok ⟨report.source, report.diagnostics⟩ := by decide +kernel
  have hwritten : written = (.ok (), written.2) := rfl
  obtain ⟨-, document, htext, haccepted, -, hreads⟩ := read_report_document hreport hwritten
  have hsource : report.source.all isChar = true := by decide
  have hmessages :
      (report.diagnostics.all fun diagnostic => diagnostic.message.all isChar) = true := by
    decide
  simp only [List.all_eq_true] at hsource hmessages
  obtain ⟨root, hroot⟩ := Option.isSome_iff_exists.1 (haccepted.2 ⟨hsource, hmessages⟩)
  exact ⟨hreport, rfl, document, root, htext, hroot, hreads root hroot⟩

/-- Two reports that their documents do not give back: a message with a form feed, and a source with
a carriage return. -/
theorem read_report_document_fails :
    let output : Path := ⟨[], [Str.of "out.xml"]⟩
    let read? (name log : Text) : Option (Report × Bool × Option LogDocument) := do
      let tree : Tree := { entries := [([Utf8.encode name], .file (Utf8.encode log))] }
      let found ← (({} : LogReader).ofFile tree ⟨[], [name]⟩).toOption
      let report : Report := ⟨← Str.text? found.source, found.diagnostics⟩
      let written := (Export.writeReport report (.ok .xml) output).run { files := tree }
      let document ← written.2.files.text? output
      return (report, (read document).isSome, (read document).bind LogDocument.ofRoot?)
    read? "a.log".toList "a.tex:1: x\x0cy\n".toList =
        some (⟨"a.log".toList, [⟨.error, "x\x0cy".toList⟩]⟩, false, none) ∧
      read? "a\rb.log".toList "a.tex:1: x\n".toList =
        some (⟨"a\rb.log".toList, [⟨.error, "x".toList⟩]⟩, true,
          some ⟨"a\nb.log".toList, 1, 0, [("error".toList, "x".toList)]⟩) := by
  decide +kernel

end Xml

end TexLog
