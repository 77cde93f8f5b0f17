import TexLog.Proofs.Commands

/-!
# The files that a command touches

A command makes directories and, as its last deed to the files, writes the report. So it leaves the
files as they were with some directories more, or it succeeds and the report file alone is new or
has new contents (`Command.run_cases`). `Command.run_touches_only_report` says this for the places
of the tree; that the report file may be one of the logs or the settings file makes no
difference.
-/

namespace TexLog

/-! ## Exports -/

namespace Export

variable [Runtime] (order : Export) (reader : LogReader) (world : World)

/-- An export fails and does nothing, or the report file is written and nothing else. -/
theorem run_cases :
    (∃ failure, (order.run reader).run world = (.error failure, world)) ∨
    ∃ report format after, (order.run reader).run world = (.ok report, after) ∧
      world.files.write order.output (Utf8.encode (report.write format)) = .ok after.files := by
  rw [run_eq]
  cases reader.selectFromFiles world.files order.logs order.selection with
  | error failure => exact .inl ⟨failure, rfl⟩
  | ok reports =>
    cases order.format with
    | error unsupported => exact .inl ⟨.format unsupported, rfl⟩
    | ok format =>
      dsimp only
      cases hwrite : world.files.write order.output
          (Utf8.encode ((Report.combine reports combinedSource).write format)) with
      | error error => exact .inl ⟨.files error, rfl⟩
      | ok files =>
        exact .inr ⟨Report.combine reports combinedSource, format,
          ⟨files, world.printed ++ order.shown reports⟩, rfl, hwrite⟩

end Export

/-! ## Commands -/

namespace Command

variable {line : List Text} {files made : Tree} {arguments : Arguments} {order : Export}

/-- The report file that a command line asks for, if it can be understood so far. -/
def reportFile? (line : List Text) : Option Path := do
  let arguments ← (Arguments.read line).toOption
  let directory ← arguments.directory.toOption
  let format ← arguments.reportFormat.toOption
  return directory.join (.ofText (arguments.fileName ++ '.' :: format.extension))

/-- The report file of a command is where its export goes. -/
theorem Prepared.reportFile?_eq (h : Prepared line files arguments order made) :
    reportFile? line = some order.output := by
  obtain ⟨directory, format, hdirectory, hformat, -, rfl⟩ := h.ordered
  simp [reportFile?, h.read, hdirectory, hformat, Except.toOption, Arguments.toExport]

section
variable [Runtime]

/-- The export of a command fails and does nothing, or the report file is written and nothing
else. -/
theorem exportReport_cases (arguments : Arguments) (order : Export) (world : World) :
    (∃ failure, (exportReport arguments order).run world = (.error failure, world)) ∨
    ∃ report format after, (exportReport arguments order).run world = (.ok report, after) ∧
      world.files.write order.output (Utf8.encode (report.write format)) = .ok after.files := by
  rw [run_exportReport]
  cases arguments.settings world.files with
  | error failure => exact .inl ⟨failure, rfl⟩
  | ok settings =>
    dsimp only
    split
    · exact .inl ⟨.concurrencyBlank, rfl⟩
    · exact order.run_cases { settings, flush := !arguments.noFlush } world

/-- A command that has nowhere to write a report has made some directories at most. -/
theorem run_of_not_prepared
    (h : ∀ arguments order made, ¬ Prepared line files arguments order made) :
    (run line files).1 ≠ .written ∧ files.Grows (run line files).2.files := by
  unfold run
  cases hread : Arguments.read line with
  | error ending => cases ending <;> exact ⟨by simp, .refl files⟩
  | ok arguments =>
    unfold perform
    simp only [StateT.run, Action.run_bind, Action.run_ofExcept, Action.run_makeDirectories]
    cases hdirectory : arguments.directory with
    | error failure => exact ⟨by simp, .refl files⟩
    | ok directory =>
      have hgrows := files.grows_ensureDirectories directory
      dsimp only
      rcases hmade : files.ensureDirectories directory with ⟨made, _ | error⟩
      · rw [hmade] at hgrows
        cases hformat : arguments.reportFormat with
        | error failure => exact ⟨by simp, hgrows⟩
        | ok format =>
          exact absurd ⟨hread, directory, format, hdirectory, hformat, hmade, rfl⟩ (h _ _ _)
      · rw [hmade] at hgrows
        exact ⟨by simp, hgrows⟩

/-- **What a command may do to files.** It makes some directories at most, or it succeeds and has
written a report to the report file in the end. -/
theorem run_cases (line : List Text) (files : Tree) :
    ((run line files).1 ≠ .written ∧ files.Grows (run line files).2.files) ∨
    ∃ (made : Tree) (output : Path) (report : Report) (format : Format),
      (run line files).1 = .written ∧ files.Grows made ∧ reportFile? line = some output ∧
      made.write output (Utf8.encode (report.write format)) = .ok (run line files).2.files := by
  by_cases hprepared : ∃ arguments order made, Prepared line files arguments order made
  · obtain ⟨arguments, order, made, hprepared⟩ := hprepared
    rw [hprepared.run_eq]
    rcases exportReport_cases arguments order { files := made } with
      ⟨failure, hfailed⟩ | ⟨report, format, after, hdone, hwrite⟩
    · refine .inl ?_
      rw [hfailed]
      refine ⟨?_, hprepared.grows⟩
      cases hexpected : failure.isExpected <;> simp [conclude, hexpected]
    · refine .inr ⟨made, order.output, report, format, ?_⟩
      rw [hdone]
      exact ⟨rfl, hprepared.grows, hprepared.reportFile?_eq, hwrite⟩
  · simp only [not_exists] at hprepared
    exact .inl (run_of_not_prepared hprepared)

/-- **A command touches the report file alone, and only if it succeeds.** Whatever the files are and
whatever the command line says, each file but the report file has the contents that it had; so has
the report file, or there is none if there was none, unless the report has been written, which is
then what it holds. No directory is lost. -/
theorem run_touches_only_report (line : List Text) (files : Tree) :
    let outcome := (run line files).1
    let after := (run line files).2.files
    (∀ place, (∀ output, reportFile? line = some output → after.resolve output ≠ .ok place) →
      ∀ content, after.get? place = some (.file content) ↔
        files.get? place = some (.file content)) ∧
    (outcome ≠ .written → ∀ place content, after.get? place = some (.file content) ↔
      files.get? place = some (.file content)) ∧
    (outcome = .written → ∃ (output : Path) (report : Report) (format : Format),
      reportFile? line = some output ∧ after.text? output = some (report.write format)) ∧
    ∀ place, files.get? place = some .directory → after.get? place = some .directory := by
  intro outcome after
  rcases run_cases line files with
    ⟨hfailed, hgrows⟩ | ⟨made, output, report, format, hwritten, hgrows, houtput, hwrite⟩
  · exact ⟨fun place _ => hgrows.get?_eq_file_iff place, fun _ => hgrows.get?_eq_file_iff,
      fun hwritten => absurd hwritten hfailed, fun _ => hgrows.get?_eq_some⟩
  · obtain ⟨-, target, hresolve, hallowed, hinserted⟩ := Tree.write_eq_ok_iff.1 hwrite
    have htarget := Tree.get?_ne_of_writeRefusal? hallowed
    have hafter : after = made.insert target (.file (Utf8.encode (report.write format))) :=
      hinserted.symm
    have hdenials : after.denials = made.denials := by rw [hafter, Tree.insert]
    have hdirectory (place : Place) (h : made.get? place = some .directory) :
        after.get? place = some .directory := by
      rw [hafter, Tree.get?_insert_eq_directory htarget place h]
    have hthere : after.resolve output = .ok target :=
      Tree.resolve_of_directories hdenials hdirectory hresolve
    refine ⟨fun place hplace content => ?_, fun hfailed => absurd hwritten hfailed,
      fun _ => ⟨output, report, format, houtput, Tree.text?_write hwrite⟩,
      fun place h => hdirectory place (hgrows.get?_eq_some h)⟩
    have hother : place ≠ target := by
      rintro rfl
      exact hplace output houtput hthere
    rw [hafter, Tree.get?_insert_of_ne hother]
    exact hgrows.get?_eq_file_iff place content

end

/-- Two commands whose report file is the log itself: one of them writes the report, and one has
settings that are none, so that the log stays as it was. The settings file stays as it was in both
cases. -/
theorem run_touches_only_report_over_log :
    letI := Runtime.standard
    let log : Bytes := Utf8.encode "x:1: one\n".toList
    let config : Bytes := Utf8.encode "[]".toList
    let logPlace : Place := [Utf8.encode "a.csv".toList]
    let configPlace : Place := [Utf8.encode "c.json".toList]
    let files : Tree := { entries := [(logPlace, .file log), (configPlace, .file config)] }
    let written := ["a.csv".toList, "--output-file=a".toList, "--output-format=csv".toList]
    let refused := written ++ ["--config=c.json".toList]
    let report : Report := ⟨"<combined>".toList, [⟨.error, "one".toList⟩]⟩
    (run written files).1 = .written ∧
      (run written files).2.files.text? ⟨[], ["a.csv".toList]⟩ = some (report.write .csv) ∧
      (run written files).2.files.get? configPlace = some (.file config) ∧
      (run refused files).1 ≠ .written ∧
      (run refused files).2.files.get? logPlace = some (.file log) := by
  let _ := Runtime.standard
  intro log config logPlace configPlace files written refused report
  have hwritten : (run written files).1 = .written := by decide +kernel
  have hrefused : (run refused files).1 ≠ .written := by decide +kernel
  have houtput : reportFile? written = some ⟨[], ["a.csv".toList]⟩ := by decide +kernel
  have hplace : ∀ output, reportFile? written = some output →
      (run written files).2.files.resolve output ≠ .ok configPlace := by
    intro output h
    obtain rfl : ⟨[], ["a.csv".toList]⟩ = output := Option.some.inj (houtput.symm.trans h)
    decide +kernel
  have hkept := (run_touches_only_report written files).1 _ hplace config
  have hleft := (run_touches_only_report refused files).2.1 hrefused logPlace log
  exact ⟨hwritten, by decide +kernel, hkept.2 (by decide +kernel), hrefused,
    hleft.2 (by decide +kernel)⟩

end Command

end TexLog
